import Mathlib.Tactic.Positivity
import SheetScript.Decimal.Layout

namespace SheetScript.Decimal

open Float.Model Float.Model.UnpackedFloat

def nearest (n d : Nat) : Nat :=
  match compare (2 * (n % d)) d with
  | .lt => n / d
  | .eq => n / d + n / d % 2
  | .gt => n / d + 1

section Nearest

variable {n d : Nat}

theorem nearest_mem : n / d ≤ nearest n d ∧ nearest n d ≤ n / d + 1 := by
  unfold nearest
  split <;> omega

theorem nearest_mul (hd : 0 < d) : nearest (n * d) d = n := by
  have less : compare (2 * (n * d % d)) d = .lt := by
    rw [Nat.mul_mod_left]
    exact Nat.compare_eq_lt.2 hd
  rw [nearest, less]
  exact Nat.mul_div_cancel n hd

theorem nearest_near (hd : 0 < d) :
    2 * (nearest n d * d) ≤ 2 * n + d ∧ 2 * n ≤ 2 * (nearest n d * d) + d ∧
      (nearest n d % 2 = 1 →
        2 * (nearest n d * d) < 2 * n + d ∧ 2 * n < 2 * (nearest n d * d) + d) := by
  have split := Nat.div_add_mod' n d
  have small := Nat.mod_lt n hd
  unfold nearest
  generalize n / d = q at split ⊢
  generalize n % d = r at split small ⊢
  split
  · rename_i h
    have := Nat.compare_eq_lt.1 h
    omega
  · rename_i h
    have := Nat.compare_eq_eq.1 h
    rcases Nat.mod_two_eq_zero_or_one q with even | odd
    · rw [even, Nat.add_zero]
      omega
    · simp only [odd, Nat.add_one_mul]
      omega
  · rename_i h
    have := Nat.compare_eq_gt.1 h
    simp only [Nat.add_one_mul]
    omega

end Nearest

/-- A mantissa with its two bits stands for the quotient of `n` and `d`. -/
structure Represents (em : ExtendedMantissa) (n d : Nat) : Prop where
  mantissa : em.mantissa = n / d
  roundBit : em.roundBit = true ↔ d ≤ 2 * (n % d)
  stickyBit : em.stickyBit = true ↔ n % d ≠ 0 ∧ 2 * (n % d) ≠ d

namespace Represents

variable {em : ExtendedMantissa} {n d : Nat}

theorem fraction (hd : 0 < d) : Represents
    (.ofMantissaAndAccuracy (n / d) (accuracyOfFraction (n % d) d)) n d := by
  have small := Nat.mod_lt n hd
  unfold accuracyOfFraction
  split
  · rename_i exact
    exact ⟨rfl, by simp [ExtendedMantissa.ofMantissaAndAccuracy]; omega,
      by simp [ExtendedMantissa.ofMantissaAndAccuracy, exact]⟩
  · rename_i inexact
    cases h : compare (2 * (n % d)) d with
    | lt =>
      have := Nat.compare_eq_lt.1 h
      exact ⟨rfl, by simp [ExtendedMantissa.ofMantissaAndAccuracy]; omega,
        by simp [ExtendedMantissa.ofMantissaAndAccuracy]; omega⟩
    | eq =>
      have := Nat.compare_eq_eq.1 h
      exact ⟨rfl, by simp [ExtendedMantissa.ofMantissaAndAccuracy]; omega,
        by simp [ExtendedMantissa.ofMantissaAndAccuracy]; omega⟩
    | gt =>
      have := Nat.compare_eq_gt.1 h
      exact ⟨rfl, by simp [ExtendedMantissa.ofMantissaAndAccuracy]; omega,
        by simp [ExtendedMantissa.ofMantissaAndAccuracy]; omega⟩

theorem shiftRightOne (h : Represents em n d) (hd : 0 < d) :
    Represents em.shiftRightOne n (d * 2) := by
  have small := Nat.mod_lt n hd
  have part : n % (d * 2) = n % d + d * (n / d % 2) := Nat.mod_mul
  refine ⟨?_, ?_, ?_⟩
  · rw [ExtendedMantissa.shiftRightOne, h.mantissa, Nat.div_div_eq_div_mul]
  · simp only [ExtendedMantissa.shiftRightOne, h.mantissa, part, bne_iff_ne]
    rcases Nat.mod_two_eq_zero_or_one (n / d) with even | odd
    · simp only [even]
      omega
    · simp only [odd]
      omega
  · simp only [ExtendedMantissa.shiftRightOne, part, Bool.or_eq_true, h.roundBit, h.stickyBit]
    rcases Nat.mod_two_eq_zero_or_one (n / d) with even | odd
    · simp only [even]
      omega
    · simp only [odd]
      omega

theorem shiftRight (h : Represents em n d) (hd : 0 < d) (s : Nat) :
    Represents (em >>> s) n (d * 2 ^ s) := by
  induction s with
  | zero => rwa [Nat.pow_zero, Nat.mul_one]
  | succ s ih =>
    have step := ih.shiftRightOne (Nat.mul_pos hd (Nat.two_pow_pos s))
    rwa [Nat.mul_assoc, ← Nat.pow_succ] at step

theorem roundedMantissa (h : Represents em n d) : em.roundedMantissa = nearest n d := by
  obtain ⟨mantissa, roundBit, stickyBit⟩ := em
  obtain ⟨whole, round, sticky⟩ := h
  simp only at whole round sticky
  subst whole
  unfold nearest
  cases roundBit with
  | false =>
    have less : compare (2 * (n % d)) d = .lt := by
      simp at round
      exact Nat.compare_eq_lt.2 (by omega)
    rw [less]
    cases stickyBit <;> rfl
  | true =>
    cases stickyBit with
    | false =>
      have half : compare (2 * (n % d)) d = .eq := by
        simp at round sticky
        exact Nat.compare_eq_eq.2 (by omega)
      rw [half]
      rfl
    | true =>
      have more : compare (2 * (n % d)) d = .gt := by
        simp at round sticky
        exact Nat.compare_eq_gt.2 (by omega)
      rw [more]
      rfl

end Represents

namespace Binary

/-- A mantissa of 53 binary digits, or one that was rounded up to `2 ^ 53`. -/
def carried (m : Nat) (e : Int) : Binary :=
  if m = 2 ^ 53 then ⟨2 ^ 52, e + 1, true⟩ else ⟨m, e, m = 2 ^ 52⟩

def spare (m : Nat) : Nat := m.log2 - 52

def rounded (n d : Nat) (e : Int) : Binary :=
  carried (nearest n (d * 2 ^ spare (n / d))) (e + spare (n / d))

def unpacked (x : Binary) : Float.Model.UnpackedFloat :=
  if h : 0 < x.mantissa then .finite .positive x.mantissa x.exponent h else .zero .positive

theorem unpacked_of_pos {x : Binary} (h : 0 < x.mantissa) :
    x.unpacked = .finite .positive x.mantissa x.exponent h :=
  dif_pos h

/-- All 53 binary digits are in use, and the exponent is neither the least one nor too large. -/
structure Normal (x : Binary) : Prop where
  full : 2 ^ 52 ≤ x.mantissa
  fits : x.mantissa < 2 ^ 53
  above : -1074 < x.exponent
  below : x.exponent ≤ 971
  lowest : x.lowest = decide (x.mantissa = 2 ^ 52)

theorem Normal.mantissa_pos {x : Binary} (h : x.Normal) : 0 < x.mantissa :=
  lt_of_lt_of_le (by decide) h.full

end Binary

open Binary

section Rounded

variable {n d : Nat} {e : Int}

theorem quotient_mem (full : 2 ^ 52 ≤ n / d) :
    2 ^ 52 ≤ n / (d * 2 ^ spare (n / d)) ∧ n / (d * 2 ^ spare (n / d)) < 2 ^ 53 := by
  have digits : 52 ≤ (n / d).log2 := (Nat.le_log2 (by omega)).2 full
  obtain ⟨s, hs⟩ := Nat.exists_eq_add_of_le digits
  have lower : 2 ^ (n / d).log2 ≤ n / d := Nat.log2_self_le (by omega)
  have upper : n / d < 2 ^ ((n / d).log2 + 1) := Nat.lt_log2_self
  rw [spare, hs, Nat.add_sub_cancel_left, ← Nat.div_div_eq_div_mul,
    Nat.le_div_iff_mul_le (by positivity), Nat.div_lt_iff_lt_mul (by positivity), ← Nat.pow_add,
    ← Nat.pow_add]
  rw [hs] at lower upper
  exact ⟨lower, by rwa [Nat.add_right_comm] at upper⟩

theorem nearest_quotient_mem (full : 2 ^ 52 ≤ n / d) :
    2 ^ 52 ≤ nearest n (d * 2 ^ spare (n / d)) ∧
      nearest n (d * 2 ^ spare (n / d)) ≤ 2 ^ 53 := by
  obtain ⟨lower, upper⟩ := quotient_mem full
  obtain ⟨least, most⟩ := nearest_mem (n := n) (d := d * 2 ^ spare (n / d))
  omega

theorem targetExponent_eq (t : Int) :
    Format.binary64.targetExponent t = max (t - 53) (-1074) := by
  have least : Format.binary64.minExponent = -1074 := by decide
  rw [Format.targetExponent, least]
  rfl

theorem targetExponent_binary64 {m : Nat} (full : 52 ≤ m.log2) (range : -1074 ≤ e) :
    Format.binary64.targetExponent (totalExponent m e) - e = (spare m : Int) := by
  rw [targetExponent_eq, totalExponent, spare]
  omega

theorem shiftToTargetExponent_binary64 {m : Nat} {acc : Accuracy} (full : 52 ≤ m.log2)
    (range : -1074 ≤ e) :
    shiftToTargetExponent .binary64 m e acc =
      (ExtendedMantissa.ofMantissaAndAccuracy m acc >>> spare m, e + spare m) := by
  rw [shiftToTargetExponent, shiftToExponent, targetExponent_binary64 full range, Int.toNat_natCast]

theorem shiftToTargetExponent_carried {m : Nat} (full : 2 ^ 52 ≤ m) (fits : m ≤ 2 ^ 53)
    (range : -1074 ≤ e) :
    (shiftToTargetExponent .binary64 m e .exact).1.mantissa = (carried m e).mantissa ∧
      (shiftToTargetExponent .binary64 m e .exact).2 = (carried m e).exponent := by
  rcases Nat.eq_or_lt_of_le fits with carry | small
  · have digits : (2 ^ 53).log2 = 53 := by decide
    rw [carry, shiftToTargetExponent_binary64 (by decide) range, spare, digits]
    exact ⟨rfl, rfl⟩
  · have digits : m.log2 = 52 := (Nat.log2_eq_iff (by omega)).2 ⟨full, small⟩
    rw [shiftToTargetExponent_binary64 (by omega) range, spare, digits, carried,
      if_neg (by omega)]
    exact ⟨rfl, by simp⟩

theorem carried_mantissa_pos {m : Nat} (full : 2 ^ 52 ≤ m) : 0 < (carried m e).mantissa := by
  unfold carried
  split <;> simp only <;> omega

theorem finite_congr {s s' : Sign} {m m' : Nat} {e e' : Int} (sign : s = s') (mantissa : m = m')
    (exponent : e = e') (pos : 0 < m) (pos' : 0 < m') :
    UnpackedFloat.finite s m e pos = .finite s' m' e' pos' := by
  subst sign mantissa exponent
  rfl

theorem roundWithAccuracy_eq (hd : 0 < d) (full : 2 ^ 52 ≤ n / d) (range : -1074 ≤ e) :
    roundWithAccuracy .binary64 .positive (n / d) e (accuracyOfFraction (n % d) d) =
      (rounded n d e).unpacked := by
  have digits : 52 ≤ (n / d).log2 := (Nat.le_log2 (by omega)).2 full
  have mantissa := ((Represents.fraction (n := n) hd).shiftRight hd
    (spare (n / d))).roundedMantissa
  obtain ⟨least, most⟩ := nearest_quotient_mem full
  obtain ⟨final, exponent⟩ := shiftToTargetExponent_carried (e := e + spare (n / d))
    least most (by omega)
  have pos := carried_mantissa_pos (e := e + spare (n / d)) least
  rw [rounded, unpacked_of_pos pos, roundWithAccuracy,
    shiftToTargetExponent_binary64 digits range]
  dsimp only
  rw [mantissa, dif_neg (final ▸ pos.ne')]
  exact finite_congr rfl final exponent _ _

theorem roundWithAccuracy_exact (full : 2 ^ 52 ≤ n) (range : -1074 ≤ e) :
    roundWithAccuracy .binary64 .positive n e .exact = (rounded n 1 e).unpacked := by
  have quotient := roundWithAccuracy_eq (n := n) Nat.one_pos (by rwa [Nat.div_one]) range
  rwa [Nat.div_one, Nat.mod_one] at quotient

theorem round_eq (full : 2 ^ 52 ≤ n) (range : -1074 ≤ e) :
    UnpackedFloat.round .binary64 .positive n e = (rounded n 1 e).unpacked := by
  have digits : 52 ≤ n.log2 := (Nat.le_log2 (by omega)).2 full
  have shift := targetExponent_binary64 digits range
  have still : (e - Format.binary64.targetExponent (totalExponent n e)).toNat = 0 := by omega
  rw [← roundWithAccuracy_exact full range, UnpackedFloat.round]
  simp only [decreaseExponent, still, Nat.shiftLeft_zero, Nat.cast_zero, Int.sub_zero]

theorem normalize_of_pos (pos : 0 < n) :
    UnpackedFloat.normalize .binary64 n e .positive =
      UnpackedFloat.round .binary64 .positive n e := by
  have greater : compare (n : Int) 0 = .gt := Int.compare_eq_gt.2 (by omega)
  rw [UnpackedFloat.normalize, greater, Int.toNat_natCast]

end Rounded

end SheetScript.Decimal
