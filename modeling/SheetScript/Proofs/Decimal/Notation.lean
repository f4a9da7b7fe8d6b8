import Mathlib.Data.List.TakeWhile
import SheetScript.Literal
import SheetScript.Proofs.Decimal.Shortest

namespace SheetScript.Decimal

def reading (digits : List Char) : ℚ := Nat.ofDigitChars 10 digits 0

def denoted? (cs : List Char) : Option ℚ :=
  let whole := cs.takeWhile Char.isDigit
  match cs.drop whole.length with
  | '.' :: part =>
    if whole ≠ [] ∧ part ≠ [] ∧ part.all Char.isDigit then
      some (reading whole + reading part / 10 ^ part.length)
    else none
  | _ => none

section Denoted

variable {whole part : List Char}

theorem reading_append (whole part : List Char) :
    reading (whole ++ part) = reading whole * 10 ^ part.length + reading part := by
  rw [reading, Nat.ofDigitChars_append, Nat.ofDigitChars_eq_ofDigitChars_zero]
  push_cast [reading]
  ring

@[simp] theorem reading_toDigits (n : Nat) : reading (Nat.toDigits 10 n) = n :=
  congrArg Nat.cast Nat.ofDigitChars_ten_toDigits

@[simp] theorem reading_zeroes (n : Nat) : reading (zeroes n) = 0 := by
  simp [reading, zeroes]

theorem denoted?_append (digits : ∀ c ∈ whole, c.isDigit = true)
    (fraction : ∀ c ∈ part, c.isDigit = true) (nonempty : whole ≠ []) (nonempty' : part ≠ []) :
    denoted? (whole ++ '.' :: part) =
      some (reading whole + reading part / 10 ^ part.length) := by
  have taken : (whole ++ '.' :: part).takeWhile Char.isDigit = whole := by
    rw [List.takeWhile_append_of_pos digits, List.takeWhile_cons_of_neg (by decide),
      List.append_nil]
  have all : part.all Char.isDigit = true := List.all_eq_true.2 fraction
  rw [denoted?]
  simp only [taken, List.drop_left, all]
  rw [if_pos ⟨nonempty, nonempty', trivial⟩]

theorem isDigit_of_mem_denoted? {cs : List Char} {v : ℚ} (h : denoted? cs = some v) :
    ∀ c ∈ cs, c.isDigit = true ∨ c = '.' := by
  unfold denoted? at h
  dsimp only at h
  split at h
  · rename_i part rest
    obtain ⟨⟨-, -, all⟩, -⟩ := Option.ite_none_right_eq_some.1 h
    have whole := List.prefix_iff_eq_take.1 (List.takeWhile_prefix Char.isDigit (l := cs))
    intro c mem
    rw [← List.take_append_drop (cs.takeWhile Char.isDigit).length cs, ← whole, rest] at mem
    rcases List.mem_append.1 mem with mem | mem
    · exact .inl (List.mem_takeWhile_imp mem)
    · rcases List.mem_cons.1 mem with point | mem
      · exact .inr point
      · exact .inl (List.all_eq_true.1 all c mem)
  · cases h

theorem denoted?_eq (digits : ∀ c ∈ whole, c.isDigit = true)
    (fraction : ∀ c ∈ part, c.isDigit = true) (nonempty : whole ≠ []) (nonempty' : part ≠ []) :
    denoted? (whole ++ '.' :: part) =
      some (reading (whole ++ part) / 10 ^ part.length) := by
  have pos : (10 ^ part.length : ℚ) ≠ 0 := by positivity
  rw [denoted?_append digits fraction nonempty nonempty', reading_append]
  field_simp

end Denoted

@[simp] theorem length_zeroes (n : Nat) : (zeroes n).length = n := List.length_replicate

theorem isDigit_of_mem_zeroes {n : Nat} : ∀ c ∈ zeroes n, c.isDigit = true := by
  intro c mem
  obtain rfl := List.eq_of_mem_replicate mem
  decide

theorem isDigit_of_mem_toDigits {n : Nat} : ∀ c ∈ Nat.toDigits 10 n, c.isDigit = true :=
  fun _ => Nat.isDigit_of_mem_toDigits (by decide) (by decide)

namespace Scientific

variable {x : Scientific}

theorem value_of_nonneg (nonneg : 0 ≤ x.exponent) :
    x.value = x.coefficient * 10 ^ x.exponent.toNat := by
  rw [value, ← zpow_natCast, Int.toNat_of_nonneg nonneg]

theorem value_of_neg (neg : x.exponent < 0) :
    x.value = x.coefficient / 10 ^ (-x.exponent).toNat := by
  rw [value, ← zpow_natCast, Int.toNat_of_nonneg (by omega), zpow_neg]
  field_simp

theorem denoted?_positional (x : Scientific) : denoted? x.positional.toList = some x.value := by
  have digits := @isDigit_of_mem_toDigits x.coefficient
  have length := @Nat.length_toDigits_pos 10 x.coefficient
  have nonempty : Nat.toDigits 10 x.coefficient ≠ [] := List.length_pos_iff.1 length
  have read := reading_toDigits x.coefficient
  rw [positional, String.toList_ofList]
  generalize Nat.toDigits 10 x.coefficient = ds at *
  split_ifs with nonneg inside
  · have whole : ∀ c ∈ ds ++ zeroes x.exponent.toNat, c.isDigit = true := by
      simpa [or_imp, forall_and] using ⟨digits, isDigit_of_mem_zeroes⟩
    change denoted? ((ds ++ zeroes x.exponent.toNat) ++ '.' :: zeroes 1) = _
    rw [denoted?_append whole isDigit_of_mem_zeroes (by simp [nonempty]) (by decide),
      reading_append, read, reading_zeroes, reading_zeroes, length_zeroes, value_of_nonneg nonneg]
    simp
  · have part : (ds.drop (ds.length + x.exponent).toNat).length = (-x.exponent).toNat := by
      rw [List.length_drop]
      omega
    rw [denoted?_eq (fun c mem => digits c (List.mem_of_mem_take mem))
      (fun c mem => digits c (List.mem_of_mem_drop mem)) ?_ ?_, List.take_append_drop, part, read,
      value_of_neg (by omega)]
    · exact List.length_pos_iff.1 (by rw [List.length_take]; omega)
    · exact List.length_pos_iff.1 (by rw [part]; omega)
  · have fraction : ∀ c ∈ zeroes (-(ds.length + x.exponent)).toNat ++ ds, c.isDigit = true := by
      simpa [or_imp, forall_and] using ⟨isDigit_of_mem_zeroes, digits⟩
    have part : (zeroes (-(ds.length + x.exponent)).toNat ++ ds).length = (-x.exponent).toNat := by
      rw [List.length_append, length_zeroes]
      omega
    change denoted? (zeroes 1 ++ '.' :: (zeroes (-(ds.length + x.exponent)).toNat ++ ds)) = _
    rw [denoted?_append isDigit_of_mem_zeroes fraction (by decide) (by simp [nonempty]), part,
      reading_append, reading_zeroes, reading_zeroes, read, value_of_neg (by omega)]
    simp

theorem value_lt (x : Scientific) :
    x.value < 10 ^ (x.exponent + (Nat.toDigits 10 x.coefficient).length) := by
  have digits : x.coefficient < 10 ^ (Nat.toDigits 10 x.coefficient).length :=
    (Nat.length_toDigits_le_iff (by decide) Nat.length_toDigits_pos).1 le_rfl
  rw [value, zpow_add₀ (by norm_num), zpow_natCast, mul_comm]
  exact mul_lt_mul_of_pos_left (by exact_mod_cast digits) (by positivity)

theorem le_value (pos : 0 < x.coefficient) :
    10 ^ (x.exponent + (Nat.toDigits 10 x.coefficient).length - 1) ≤ x.value := by
  obtain ⟨k, hk⟩ : ∃ k, (Nat.toDigits 10 x.coefficient).length = k + 1 :=
    Nat.exists_eq_add_one.2 Nat.length_toDigits_pos
  have digits : 10 ^ k ≤ x.coefficient := by
    rcases Nat.eq_zero_or_pos k with rfl | many
    · exact pos
    · refine Nat.le_of_not_lt fun less => ?_
      have := (Nat.length_toDigits_le_iff (by decide) many).2 less
      omega
  rw [hk, value, Nat.cast_add_one, ← add_assoc, add_sub_cancel_right, zpow_add₀ (by norm_num),
    zpow_natCast, mul_comm]
  exact mul_le_mul_of_nonneg_right (by exact_mod_cast digits) (by positivity)

theorem write_eq_positional (lower : 10 ^ (-4 : ℤ) ≤ x.value) (upper : x.value < 10 ^ (16 : ℤ)) :
    Literal.layout.write x = x.positional := by
  have pos : 0 < x.coefficient := by
    refine Nat.pos_of_ne_zero fun zero => ?_
    rw [value, zero, Nat.cast_zero, zero_mul] at lower
    exact absurd lower (by norm_num)
  have above := (zpow_lt_zpow_iff_right₀ (by norm_num)).1 (lower.trans_lt x.value_lt)
  have below := (zpow_lt_zpow_iff_right₀ (by norm_num)).1 ((le_value pos).trans_lt upper)
  rw [Layout.write]
  refine if_pos ⟨?_, below⟩
  change (-4 : Int) ≤ _
  omega

end Scientific

end SheetScript.Decimal
