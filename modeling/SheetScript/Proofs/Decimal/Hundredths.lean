import SheetScript.Proofs.Decimal.Double
import SheetScript.Proofs.Decimal.Shortest

/-!
A whole number and hundredths as one double. The hundredths are rounded before the sum is, so that
for some of them the sum is not the double nearest to the exact number.
-/

namespace SheetScript.Decimal

namespace Binary

def hundredths (b : Nat) : Binary := quotient (ofNat b) hundred

def mixed (a b : Nat) : Binary := if a = 0 then hundredths b else sum (ofNat a) (hundredths b)

/-- The hundredths behind a whole number that the two roundings take to a neighbour of the double
they belong to. -/
def drifts : Nat → List Nat
  | 1 => [14, 36, 39, 57, 59, 61, 64, 66, 68, 82, 84, 86, 89, 91, 93]
  | 2 | 3 => [28, 47, 53, 72, 78, 97]
  | 4 | 5 | 6 | 7 => [56, 69, 81, 94]
  | _ => []

variable {a b : Nat}

theorem value_hundred : hundred.value = 100 := by
  rw [value, hundred]
  norm_num

theorem lt_top {r : ℚ} (h : r < 2 ^ 54) : r < 2 ^ 1023 :=
  h.trans_le (pow_le_pow_right₀ one_le_two (by decide))

theorem rounds_hundredths (pos : 0 < b) (fits : b < 2 ^ 53) : (hundredths b).Rounds (b / 100) := by
  have range : -1021 < (ofNat b).exponent - hundred.exponent := by
    have := exponent_ofNat b
    have : hundred.exponent = -46 := rfl
    omega
  have small : (b : ℚ) / 100 < 2 ^ 54 := by
    have : (b : ℚ) < 2 ^ 53 := by exact_mod_cast fits
    linarith
  have exact : (ofNat b).value / hundred.value = b / 100 := by rw [value_ofNat, value_hundred]
  rw [← exact] at small ⊢
  exact (normal_ofNat pos fits).rounds_quotient normal_hundred range (lt_top small)

theorem float_hundredths (pos : 0 < b) (fits : b < 2 ^ 53) :
    (ofNat b).float / (100.0 : Float) = (hundredths b).float := by
  rw [float_hundred]
  refine (normal_ofNat pos fits).div_float normal_hundred ?_
  have := exponent_ofNat b
  have : hundred.exponent = -46 := rfl
  omega

theorem Rounds.half_le {x : Binary} {r : ℚ} (h : x.Rounds r) :
    r / 2 ≤ x.value ∧ x.value / 2 ≤ r := by
  have unit : (0 : ℚ) < 2 ^ x.exponent := by positivity
  have full := h.normal.full_le_value
  have near := abs_le.1 h.abs_sub_le
  constructor <;> linarith

theorem rounds_sum_hundredths (ha : 0 < a) (fitsA : a < 2 ^ 53) (hb : 0 < b) (fitsB : b < 2 ^ 53) :
    (sum (ofNat a) (hundredths b)).Rounds (a + (hundredths b).value) := by
  have hundredth := rounds_hundredths hb fitsB
  have small : (a : ℚ) + (hundredths b).value < 2 ^ 54 := by
    have : (a : ℚ) < 2 ^ 53 := by exact_mod_cast fitsA
    have : (b : ℚ) < 2 ^ 53 := by exact_mod_cast fitsB
    have := hundredth.half_le.2
    linarith
  have sum := (normal_ofNat ha fitsA).rounds_sum hundredth.normal
  rw [value_ofNat] at sum
  exact sum (lt_top small)

theorem exists_rounds_mixed {p : ℤ} (fitsA : a < 2 ^ 53) (hb : 0 < b) (fitsB : b < 2 ^ 53)
    (lt : (a : ℚ) + b / 100 < 2 ^ p) :
    ∃ r, (mixed a b).Rounds r ∧ |r - (a + b / 100)| ≤ 2 ^ (p - 54) ∧ 1 / 200 ≤ r := by
  have hundredth := rounds_hundredths hb fitsB
  have one : (1 : ℚ) ≤ b := by exact_mod_cast hb
  rcases Nat.eq_zero_or_pos a with rfl | ha
  · refine ⟨b / 100, ?_, ?_, by linarith⟩
    · rwa [mixed, if_pos rfl]
    · rw [Nat.cast_zero, zero_add, sub_self, abs_zero]
      positivity
  · refine ⟨a + (hundredths b).value, ?_, ?_, ?_⟩
    · rw [mixed, if_neg ha.ne']
      exact rounds_sum_hundredths ha fitsA hb fitsB
    · have below : (b : ℚ) / 100 < 2 ^ p := by
        have : (0 : ℚ) ≤ a := a.cast_nonneg
        linarith
      rw [add_sub_add_left_eq_sub, abs_sub_comm]
      exact hundredth.abs_sub_le_of_lt below
    · have := hundredth.half_le.1
      have : (0 : ℚ) ≤ a := a.cast_nonneg
      linarith

theorem shortest_mixed {p : ℤ} (top : p ≤ 47) (fitsA : a < 2 ^ 53) (hb : 0 < b) (fitsB : b < 2 ^ 53)
    (lt : (a : ℚ) + b / 100 < 2 ^ p) :
    (mixed a b).Normal ∧ (mixed a b).exponent ≤ p - 51 ∧
      (mixed a b).interval.Within (mixed a b).shortest.value ∧
      |(mixed a b).shortest.value - (a + b / 100)| ≤ 2 ^ (p - 51) + 2 ^ (p - 54) ∧
      1 / 800 ≤ (mixed a b).shortest.value := by
  obtain ⟨r, rounds, near, least⟩ := exists_rounds_mixed fitsA hb fitsB lt
  have small : r < 2 ^ (p + 1) := by
    have double : (2 : ℚ) ^ (p + 1) = 2 ^ p + 2 ^ p := by rw [zpow_add_one₀ two_ne_zero, mul_two]
    have le : (2 : ℚ) ^ (p - 54) ≤ 2 ^ p := zpow_le_zpow_right₀ one_le_two (by omega)
    have := (abs_le.1 near).2
    linarith
  have most : (mixed a b).exponent ≤ p - 51 := by
    have := rounds.exponent_le small
    omega
  have halves := rounds.half_le
  have lower : -325 ≤ (mixed a b).exponent := by
    have value : (2 : ℚ) ^ (-9 : ℤ) ≤ (mixed a b).value := by
      norm_num
      linarith
    have := rounds.normal.le_exponent value
    omega
  have within := within_shortest rounds.normal.mantissa_pos lower (by omega)
  have shortest : (mixed a b).Rounds (mixed a b).shortest.value := ⟨rounds.normal, within⟩
  refine ⟨rounds.normal, most, within, ?_, ?_⟩
  · have unit : (2 : ℚ) ^ (mixed a b).exponent ≤ 2 ^ (p - 51) :=
      zpow_le_zpow_right₀ one_le_two most
    have first := abs_le.1 shortest.abs_sub_le
    have second := abs_le.1 rounds.abs_sub_le
    have third := abs_le.1 near
    rw [abs_le]
    constructor <;> linarith
  · have := shortest.half_le.2
    linarith

theorem float_mixed (fitsA : a < 2 ^ 53) (hb : 0 < b) (fitsB : b < 2 ^ 53) :
    (ofNat a).float + (ofNat b).float / (100.0 : Float) = (mixed a b).float := by
  have hundredth := (rounds_hundredths hb fitsB).normal
  rw [float_hundredths hb fitsB]
  rcases Nat.eq_zero_or_pos a with rfl | ha
  · rw [hundredth.zero_add, mixed, if_pos rfl]
  · rw [(normal_ofNat ha fitsA).add_float hundredth, mixed, if_neg ha.ne']

def keeps (a b : Nat) : Bool :=
  let i := (mixed a b).interval
  i.precedes (i.lo * Interval.scale (-2)) ((100 * a + b) * i.unit (-2)) &&
    i.precedes ((100 * a + b) * i.unit (-2)) (i.hi * Interval.scale (-2))

theorem exact_eq (a b : Nat) : (a : ℚ) + b / 100 = (100 * a + b : Nat) * 10 ^ (-2 : ℤ) := by
  push_cast
  norm_num
  ring

theorem within_iff_keeps : (mixed a b).interval.Within (a + b / 100) ↔ keeps a b = true := by
  rw [exact_eq, Interval.within_iff, keeps, Bool.and_eq_true]

theorem keeps_table : (List.range' 1 15).all (fun a => (List.range' 1 99).all fun b =>
    keeps a b == !(drifts a).contains b) = true := by
  decide +kernel

theorem keeps_iff_of_lt (ha : 0 < a) (lt : a < 16) (hb : 0 < b) (two : b < 100) :
    keeps a b = true ↔ b ∉ drifts a := by
  have row := List.all_eq_true.1 keeps_table a (List.mem_range'_1.2 (by omega))
  have cell := List.all_eq_true.1 row b (List.mem_range'_1.2 (by omega))
  rw [beq_iff_eq.1 cell, Bool.not_eq_true', List.contains_eq_mem, decide_eq_false_iff_not]

theorem drifts_of_le (le : 8 ≤ a) : drifts a = [] := by
  unfold drifts
  split <;> first | omega | rfl

theorem abs_lt_fifty {z : ℤ} (four : 4 ∣ z) (lt : |z| < 52) : |z| < 50 := by
  rw [abs_lt] at *
  omega

/-- Of the multiples of a small unit, one that is nearest to a close real is nearest to the exact
number too, since a hundredth of a unit divides the distances evenly. -/
theorem abs_sub_lt_half {m t : Nat} {r : ℚ} (many : 2 ≤ t) (few : t ≤ 48)
    (near : |r - m * 2 ^ (-t : ℤ)| ≤ 2 ^ (-t : ℤ) / 2)
    (close : |r - (a + b / 100 : ℚ)| ≤ 2 ^ (-54 : ℤ)) :
    |(a + b / 100 : ℚ) - m * 2 ^ (-t : ℤ)| < 2 ^ (-t : ℤ) / 2 := by
  have unit : (2 : ℚ) ^ (-t : ℤ) = ((2 : ℚ) ^ t)⁻¹ := by rw [zpow_neg, zpow_natCast]
  have pos : (0 : ℚ) < 2 ^ t := by positivity
  have small : (2 : ℚ) ^ t ≤ 2 ^ 48 := pow_le_pow_right₀ one_le_two few
  have scaled : (a + b / 100 : ℚ) - m * ((2 : ℚ) ^ t)⁻¹ =
      (((100 * a + b) * 2 ^ t - 100 * m : ℤ) : ℚ) / (100 * 2 ^ t) := by
    push_cast
    field_simp
  -- In hundredths of a unit the distance is a multiple of four: below 52 it is below 50, which is
  -- half a unit.
  have four : (4 : ℤ) ∣ (100 * a + b) * 2 ^ t - 100 * m := by
    obtain ⟨k, rfl⟩ := Nat.exists_eq_add_of_le many
    refine dvd_sub ?_ ⟨25 * m, by ring⟩
    exact ⟨(100 * a + b) * 2 ^ k, by ring⟩
  have distance : |(a + b / 100 : ℚ) - m * ((2 : ℚ) ^ t)⁻¹| ≤
      ((2 : ℚ) ^ t)⁻¹ / 2 + 2 ^ (-54 : ℤ) := by
    rw [unit] at near
    have := abs_le.1 near
    have := abs_le.1 close
    rw [abs_le]
    constructor <;> linarith
  have fifty : ((2 : ℚ) ^ t)⁻¹ / 2 * (100 * 2 ^ t) = 50 := by
    field_simp
    norm_num
  generalize (100 * a + b) * 2 ^ t - 100 * (m : ℤ) = z at scaled four
  have positive : (0 : ℚ) < 100 * 2 ^ t := by positivity
  rw [scaled, abs_div, abs_of_pos positive, div_le_iff₀ positive, add_mul, fifty] at distance
  rw [unit, scaled, abs_div, abs_of_pos positive, div_lt_iff₀ positive, fifty]
  have less : |(z : ℚ)| < 52 := by
    norm_num at distance small ⊢
    linarith
  exact_mod_cast abs_lt_fifty four (by exact_mod_cast less)

theorem exists_place {n : Nat} {e : Int} {r : ℚ} (exact : ((n : ℚ) / (1 : Nat)) * 2 ^ e = r)
    (full : 2 ^ 52 ≤ n / 1) (large : 16 ≤ a) (small : a < 2 ^ 44) (le : a ≤ r) (lt : r < a + 1) :
    ∃ t : Nat, 2 ≤ t ∧ t ≤ 48 ∧ e + spare (n / 1) = -t ∧
      (2 : ℚ) ^ 52 * 2 ^ (-t : ℤ) ≤ a := by
  have large' : (16 : ℚ) ≤ a := by exact_mod_cast large
  have small' : (a : ℚ) + 1 ≤ 2 ^ 44 := by exact_mod_cast small
  obtain ⟨lower, upper⟩ := quotient_mem_place (e := e) Nat.one_pos full
  rw [exact, place, ← zpow_natCast, ← zpow_add₀ two_ne_zero] at lower upper
  generalize e + spare (n / 1) = q at lower upper ⊢
  have least : (2 : ℚ) ^ (4 : ℤ) < 2 ^ ((53 : Nat) + q) := by
    refine lt_of_le_of_lt ?_ upper
    norm_num
    linarith
  have most : (2 : ℚ) ^ ((52 : Nat) + q) < 2 ^ (44 : ℤ) := by
    refine lower.trans_lt (lt.trans_le ?_)
    exact small'
  rw [zpow_lt_zpow_iff_right₀ one_lt_two] at least most
  obtain ⟨t, rfl⟩ : ∃ t : Nat, q = -t := ⟨(-q).toNat, by omega⟩
  have power : (2 : ℚ) ^ 52 * 2 ^ (-t : ℤ) = (2 ^ (52 - t) : Nat) := by
    rw [Nat.cast_pow, Nat.cast_ofNat, ← zpow_natCast, ← zpow_natCast, ← zpow_add₀ two_ne_zero]
    congr 1
    omega
  refine ⟨t, by omega, by omega, rfl, ?_⟩
  rw [zpow_add₀ two_ne_zero, zpow_natCast, power] at lower
  rw [power]
  exact_mod_cast Nat.le_of_lt_succ (by exact_mod_cast lower.trans_lt lt)

theorem hundredths_mem (hb : 0 < b) (two : b < 100) :
    |(hundredths b).value - b / 100| ≤ 2 ^ (-54 : ℤ) ∧ 0 ≤ (hundredths b).value ∧
      (hundredths b).value < 1 := by
  have hundredth := rounds_hundredths hb (by omega)
  have part : (b : ℚ) / 100 ≤ 99 / 100 := by
    have : (b : ℚ) ≤ 99 := by exact_mod_cast Nat.le_of_lt_succ two
    linarith
  have close := hundredth.abs_sub_le_of_lt (p := 0) (by norm_num; linarith)
  rw [abs_sub_comm, zero_sub] at close
  have bounds := abs_le.1 close
  norm_num at bounds
  have half := hundredth.half_le.1
  have nonneg : (0 : ℚ) ≤ b := b.cast_nonneg
  exact ⟨close, by linarith, by linarith⟩

theorem within_mixed_of_le (large : 16 ≤ a) (small : a < 2 ^ 44) (hb : 0 < b) (two : b < 100) :
    (mixed a b).interval.Within (a + b / 100) := by
  have normal := normal_ofNat (show 0 < a by omega) (by omega)
  obtain ⟨close, nonneg, fraction⟩ := hundredths_mem hb two
  have exact := Normal.total_mul (ofNat a) (hundredths b)
  rw [value_ofNat] at exact
  have full : 2 ^ 52 ≤ total (ofNat a) (hundredths b) / 1 := normal.le_total
  obtain ⟨t, many, few, shift, whole⟩ :=
    exists_place exact full large small (by linarith) (by linarith)
  have near := (abs_sub_nearest_le (n := total (ofNat a) (hundredths b))
    (e := min (ofNat a).exponent (hundredths b).exponent) Nat.one_pos).1
  rw [exact, place, shift] at near
  have strict := abs_sub_lt_half (b := b) many few near (by rwa [add_sub_add_left_eq_sub])
  have above : (2 : ℚ) ^ 52 * 2 ^ (-t : ℤ) ≤ a + b / 100 :=
    whole.trans (le_add_of_nonneg_right (by positivity))
  rw [mixed, if_neg (by omega), sum, rounded, shift]
  exact within_carried (nearest_quotient_mem full).1 above strict.le fun _ => strict

theorem within_mixed_iff (small : a < 2 ^ 44) (hb : 0 < b) (two : b < 100) :
    (mixed a b).interval.Within (a + b / 100) ↔ b ∉ drifts a := by
  rcases Nat.eq_zero_or_pos a with rfl | ha
  · have within := (rounds_hundredths hb (by omega)).within
    simp [mixed, drifts, within]
  rcases Nat.lt_or_ge a 16 with lt | large
  · rw [within_iff_keeps, keeps_iff_of_lt ha lt hb two]
  · simp [within_mixed_of_le large small hb two, drifts_of_le (show 8 ≤ a by omega)]

theorem exact_lt {m n : Nat} {top : ℚ} (ha : a < m) (hb : b < n) (le : (m : ℚ) + n / 100 ≤ top) :
    (a : ℚ) + b / 100 < top := by
  have : (a : ℚ) < m := by exact_mod_cast ha
  have : (b : ℚ) < n := by exact_mod_cast hb
  linarith

theorem value_shortest_ne_tenths (ha : a < 10 ^ 14) (pos : 0 < b) (hb : b < 10) :
    (mixed a b).shortest.value ≠ a + b / 10 := by
  have one : (1 : ℚ) ≤ b := by exact_mod_cast pos
  have lt : (a : ℚ) + b / 100 < 2 ^ (47 : ℤ) := exact_lt ha hb (by norm_num)
  obtain ⟨-, -, -, near, -⟩ := shortest_mixed le_rfl (by omega) pos (by omega) lt
  intro eq
  rw [eq, abs_le] at near
  norm_num at near
  linarith

theorem value_shortest_ne_smaller {l : Nat} (ha : a < 10 ^ 12) (pos : 0 < b) (hb : b < 10 ^ 14)
    (many : 3 ≤ l) : (mixed a b).shortest.value ≠ a + b / 10 ^ l := by
  have one : (1 : ℚ) ≤ b := by exact_mod_cast pos
  have lt : (a : ℚ) + b / 100 < 2 ^ (41 : ℤ) := exact_lt ha hb (by norm_num)
  have small : (b : ℚ) / 10 ^ l ≤ b / 10 ^ 3 :=
    div_le_div_of_nonneg_left b.cast_nonneg (by positivity) (pow_le_pow_right₀ (by norm_num) many)
  obtain ⟨-, -, -, near, -⟩ := shortest_mixed (by decide) (by omega) pos (by omega) lt
  intro eq
  rw [eq, abs_le] at near
  norm_num at near small
  linarith

theorem value_shortest_eq_hundredths_iff (ha : a < 10 ^ 13) (pos : 0 < b) (hb : b < 100) :
    (mixed a b).shortest.value = a + b / 100 ↔ b ∉ drifts a := by
  have lt : (a : ℚ) + b / 100 < 2 ^ (44 : ℤ) := exact_lt ha hb (by norm_num)
  obtain ⟨normal, exponent, within, -⟩ := shortest_mixed (by decide) (by omega) pos (by omega) lt
  have dense : (2 : ℚ) ^ (mixed a b).exponent < 10 ^ (-2 : ℤ) :=
    (zpow_le_zpow_right₀ one_le_two exponent).trans_lt (by norm_num)
  rw [← within_mixed_iff (by omega) pos hb]
  constructor
  · intro eq
    rwa [← eq]
  · intro exact
    rw [exact_eq] at exact ⊢
    exact value_shortest_eq normal.mantissa_pos (by decide) (by decide) dense exact

theorem value_shortest_eq_iff {k l : Nat} (ha : a < 10 ^ k) (hb : b < 10 ^ l) (nonempty : 0 < k)
    (short : k + l ≤ 15) (pos : 0 < b) :
    (mixed a b).shortest.value = a + b / 10 ^ l ↔ l = 2 ∧ b ∉ drifts a := by
  have whole {m : Nat} (le : k ≤ m) : a < 10 ^ m :=
    ha.trans_le (Nat.pow_le_pow_right (by decide) le)
  match l, hb with
  | 0, hb => omega
  | 1, hb => simpa using value_shortest_ne_tenths (whole (by omega)) pos (by omega)
  | 2, hb =>
    have iff := value_shortest_eq_hundredths_iff (whole (by omega)) pos (by omega)
    norm_num
    exact iff
  | l + 3, hb =>
    have part : b < 10 ^ 14 := hb.trans_le (Nat.pow_le_pow_right (by decide) (by omega))
    simpa using value_shortest_ne_smaller (whole (by omega)) pos part (by omega)

theorem value_shortest_ofNat (pos : 0 < a) (fits : a < 2 ^ 52) : (ofNat a).shortest.value = a := by
  have normal := normal_ofNat pos (by omega)
  have digits : a.log2 < 52 := (Nat.log2_lt pos.ne').2 fits
  have exponent := exponent_ofNat a
  have within := within_value normal.mantissa_pos
  have dense : (2 : ℚ) ^ (ofNat a).exponent < 10 ^ (0 : ℤ) := by
    rw [zpow_zero]
    exact zpow_lt_one_of_neg₀ one_lt_two (by omega)
  have unit : (a : ℚ) = a * 10 ^ (0 : ℤ) := by simp
  rw [value_ofNat, unit] at within
  rw [unit]
  exact value_shortest_eq normal.mantissa_pos (by decide) le_rfl dense within

end Binary

end SheetScript.Decimal
