import Mathlib.Algebra.Order.Field.Power
import Mathlib.Tactic.FieldSimp
import Mathlib.Tactic.Linarith
import Mathlib.Tactic.Ring
import SheetScript.Proofs.Decimal.Rounding

namespace SheetScript.Decimal

theorem pow_toNat {b : ℚ} (hb : b ≠ 0) (n : ℤ) : b ^ n.toNat = b ^ n * b ^ (-n).toNat := by
  rw [← zpow_natCast, ← zpow_natCast, ← zpow_add₀ hb]
  congr 1
  omega

namespace Interval

def Precedes (i : Interval) (a b : ℚ) : Prop := if i.closed then a ≤ b else a < b

def Within (i : Interval) (r : ℚ) : Prop :=
  i.Precedes i.lo (r * i.den) ∧ i.Precedes (r * i.den) i.hi

variable {i : Interval} {a b c : ℚ}

theorem Precedes.le (h : i.Precedes a b) : a ≤ b := by
  unfold Precedes at h
  split at h
  · exact h
  · exact h.le

theorem precedes_of_lt (h : a < b) : i.Precedes a b := by
  unfold Precedes
  split
  · exact h.le
  · exact h

theorem Precedes.trans_le (h : i.Precedes a b) (le : b ≤ c) : i.Precedes a c := by
  unfold Precedes at *
  split_ifs at *
  · exact h.trans le
  · exact h.trans_le le

theorem Precedes.le_trans (le : a ≤ b) (h : i.Precedes b c) : i.Precedes a c := by
  unfold Precedes at *
  split_ifs at *
  · exact le.trans h
  · exact le.trans_lt h

theorem precedes_mul_iff (pos : 0 < c) : i.Precedes (a * c) (b * c) ↔ i.Precedes a b := by
  unfold Precedes
  rw [mul_le_mul_iff_left₀ pos, mul_lt_mul_iff_left₀ pos]

end Interval

namespace Binary

variable {x : Binary} {r : ℚ}

def value (x : Binary) : ℚ := x.mantissa * 2 ^ x.exponent

/-- The distance of the reals just below that still round to the double. -/
def reach (x : Binary) : ℚ := if x.lowest then 2 ^ x.exponent / 4 else 2 ^ x.exponent / 2

theorem reach_le (x : Binary) : x.reach ≤ 2 ^ x.exponent / 2 := by
  have : (0 : ℚ) < 2 ^ x.exponent := by positivity
  unfold reach
  split <;> linarith

theorem up_eq (x : Binary) :
    ((Nat.pow 2 (x.exponent - 2).toNat : Nat) : ℚ) = 2 ^ x.exponent / 4 * x.interval.den := by
  have quarter : (2 : ℚ) ^ (x.exponent - 2) = 2 ^ x.exponent / 4 := by
    rw [zpow_sub₀ two_ne_zero]
    norm_num
  have split := pow_toNat (two_ne_zero : (2 : ℚ) ≠ 0) (x.exponent - 2)
  rw [quarter, neg_sub] at split
  exact_mod_cast split

theorem den_pos (x : Binary) : 0 < (x.interval.den : ℚ) :=
  Nat.cast_pos.2 (Nat.two_pow_pos _)

theorem lo_eq (pos : 0 < x.mantissa) :
    (x.interval.lo : ℚ) = (x.value - x.reach) * x.interval.den := by
  have up := x.up_eq
  change (((4 * x.mantissa - if x.lowest then 1 else 2) * Nat.pow 2 (x.exponent - 2).toNat : Nat) :
    ℚ) = _
  rw [Nat.cast_mul, up, value, reach]
  cases x.lowest with
  | true =>
    rw [if_pos rfl, if_pos rfl, Nat.cast_sub (by omega)]
    push_cast
    ring
  | false =>
    rw [if_neg Bool.false_ne_true, if_neg Bool.false_ne_true, Nat.cast_sub (by omega)]
    push_cast
    ring

theorem hi_eq (x : Binary) :
    (x.interval.hi : ℚ) = (x.value + 2 ^ x.exponent / 2) * x.interval.den := by
  have up := x.up_eq
  change (((4 * x.mantissa + 2) * Nat.pow 2 (x.exponent - 2).toNat : Nat) : ℚ) = _
  rw [Nat.cast_mul, up, value]
  push_cast
  ring

theorem within_iff (pos : 0 < x.mantissa) : x.interval.Within r ↔
    x.interval.Precedes (x.value - x.reach) r ∧
      x.interval.Precedes r (x.value + 2 ^ x.exponent / 2) := by
  rw [Interval.Within, lo_eq pos, hi_eq, Interval.precedes_mul_iff x.den_pos,
    Interval.precedes_mul_iff x.den_pos]

theorem abs_sub_value_le (pos : 0 < x.mantissa) (h : x.interval.Within r) :
    |r - x.value| ≤ 2 ^ x.exponent / 2 := by
  obtain ⟨lower, upper⟩ := (within_iff pos).1 h
  have := x.reach_le
  have := lower.le
  have := upper.le
  rw [abs_le]
  constructor <;> linarith

namespace Normal

variable {p : ℤ}

theorem full_le_value (normal : x.Normal) : 2 ^ 52 * 2 ^ x.exponent ≤ x.value :=
  mul_le_mul_of_nonneg_right (by exact_mod_cast normal.full) (by positivity)

theorem le_exponent (normal : x.Normal) (h : 2 ^ p ≤ x.value) : p - 52 ≤ x.exponent := by
  have fits : x.value < 2 ^ (53 + x.exponent) := by
    rw [value, zpow_add₀ two_ne_zero]
    exact mul_lt_mul_of_pos_right (by exact_mod_cast normal.fits) (by positivity)
  have := (zpow_lt_zpow_iff_right₀ one_lt_two).1 (h.trans_lt fits)
  omega

end Normal

structure Rounds (x : Binary) (r : ℚ) : Prop where
  normal : x.Normal
  within : x.interval.Within r

namespace Rounds

variable {p : ℤ}

theorem abs_sub_le (h : x.Rounds r) : |r - x.value| ≤ 2 ^ x.exponent / 2 :=
  abs_sub_value_le h.normal.mantissa_pos h.within

theorem exponent_le (h : x.Rounds r) (lt : r < 2 ^ p) : x.exponent ≤ p - 52 := by
  have unit : (0 : ℚ) < 2 ^ x.exponent := by positivity
  have near := abs_le.1 h.abs_sub_le
  have full := h.normal.full_le_value
  have half : (2 : ℚ) ^ (51 + x.exponent) < 2 ^ p := by
    rw [zpow_add₀ two_ne_zero]
    norm_num at full ⊢
    linarith
  have := (zpow_lt_zpow_iff_right₀ one_lt_two).1 half
  omega

theorem abs_sub_le_of_lt (h : x.Rounds r) (lt : r < 2 ^ p) : |r - x.value| ≤ 2 ^ (p - 54) := by
  have normal := h.normal
  have quarter : (2 : ℚ) ^ (p - 54) = 2 ^ (p - 52) / 4 := by
    rw [show p - 54 = p - 52 - 2 by ring, zpow_sub₀ two_ne_zero (p - 52) 2]
    norm_num
  rcases (h.exponent_le lt).lt_or_eq with below | top
  · have le : (2 : ℚ) ^ (x.exponent + 1) ≤ 2 ^ (p - 52) :=
      zpow_le_zpow_right₀ one_le_two (by omega)
    rw [zpow_add_one₀ two_ne_zero] at le
    have := h.abs_sub_le
    rw [quarter]
    linarith
  · -- The real lies below the double, which is the power of two itself.
    have power : (2 : ℚ) ^ p = 2 ^ 52 * 2 ^ x.exponent := by
      rw [top, ← zpow_natCast, ← zpow_add₀ two_ne_zero]
      congr 1
      push_cast
      ring
    have unit : (0 : ℚ) < 2 ^ x.exponent := by positivity
    have full := normal.full_le_value
    have lower := ((within_iff normal.mantissa_pos).1 h.within).1.le
    have lowest : x.lowest = true := by
      by_contra high
      have more : 2 ^ 52 + 1 ≤ x.mantissa := by
        have := normal.full
        have : x.mantissa ≠ 2 ^ 52 := fun least =>
          high (normal.lowest.trans (decide_eq_true least))
        omega
      have more' : (2 ^ 52 + 1 : ℚ) ≤ x.mantissa := by exact_mod_cast more
      have := mul_le_mul_of_nonneg_right more' unit.le
      rw [reach, if_neg high, value] at lower
      linarith
    rw [reach, if_pos lowest, top] at lower
    rw [quarter, abs_le]
    constructor <;> linarith

end Rounds

theorem within_of_le (pos : 0 < x.mantissa) (lower : x.value - x.reach ≤ r)
    (upper : r ≤ x.value + 2 ^ x.exponent / 2)
    (odd : x.mantissa % 2 = 1 → x.value - x.reach < r ∧ r < x.value + 2 ^ x.exponent / 2) :
    x.interval.Within r := by
  rw [within_iff pos]
  rcases Nat.mod_two_eq_zero_or_one x.mantissa with even | h
  · have closed : x.interval.closed = true := decide_eq_true even
    simp only [Interval.Precedes, closed, if_true]
    exact ⟨lower, upper⟩
  · exact ⟨Interval.precedes_of_lt (odd h).1, Interval.precedes_of_lt (odd h).2⟩

section Rounded

variable {m n d : Nat} {e : Int}

theorem within_carry (near : |r - 2 ^ 53 * 2 ^ e| ≤ 2 ^ e / 2) :
    Interval.Within (interval ⟨2 ^ 52, e + 1, true⟩) r := by
  have double : (2 : ℚ) ^ (e + 1) = 2 * 2 ^ e := by rw [zpow_add_one₀ two_ne_zero, mul_comm]
  have unit : (0 : ℚ) < 2 ^ e := by positivity
  have even : 2 ^ 52 % 2 ≠ 1 := by decide
  rw [abs_le] at near
  refine within_of_le (by decide : 0 < 2 ^ 52) ?_ ?_ (absurd · even)
  · simp only [value, reach, double, if_true]
    push_cast
    linarith
  · simp only [value, double]
    push_cast
    linarith

theorem within_least (above : 2 ^ 52 * 2 ^ e ≤ r) (near : |r - 2 ^ 52 * 2 ^ e| ≤ 2 ^ e / 2) :
    Interval.Within (interval ⟨2 ^ 52, e, true⟩) r := by
  have unit : (0 : ℚ) < 2 ^ e := by positivity
  have even : 2 ^ 52 % 2 ≠ 1 := by decide
  rw [abs_le] at near
  refine within_of_le (by decide : 0 < 2 ^ 52) ?_ ?_ (absurd · even)
  · simp only [value, reach, if_true]
    push_cast
    linarith
  · simp only [value]
    push_cast
    linarith

theorem within_carried (full : 2 ^ 52 ≤ m) (above : 2 ^ 52 * 2 ^ e ≤ r)
    (near : |r - m * 2 ^ e| ≤ 2 ^ e / 2) (odd : m % 2 = 1 → |r - m * 2 ^ e| < 2 ^ e / 2) :
    (carried m e).interval.Within r := by
  by_cases carry : m = 2 ^ 53
  · have cast : (m : ℚ) = 2 ^ 53 := by exact_mod_cast carry
    rw [carried, if_pos carry]
    exact within_carry (cast ▸ near)
  by_cases least : m = 2 ^ 52
  · have cast : (m : ℚ) = 2 ^ 52 := by exact_mod_cast least
    rw [carried, if_neg carry, decide_eq_true least, least]
    exact within_least above (cast ▸ near)
  rw [abs_le] at near
  rw [abs_lt] at odd
  rw [carried, if_neg carry, decide_eq_false least]
  refine within_of_le (x := ⟨m, e, false⟩) (lt_of_lt_of_le (by decide) full) ?_ ?_ fun h => ?_
  · simp only [value, reach, Bool.false_eq_true, if_false]
    linarith
  · simp only [value]
    linarith
  · have := odd h
    simp only [value, reach, Bool.false_eq_true, if_false]
    constructor <;> linarith

theorem abs_div_sub_le (hd : 0 < d) :
    |(n / d : ℚ) - nearest n d| ≤ 1 / 2 ∧
      (nearest n d % 2 = 1 → |(n / d : ℚ) - nearest n d| < 1 / 2) := by
  obtain ⟨upper, lower, odd⟩ := nearest_near (n := n) hd
  have pos : (0 : ℚ) < d := Nat.cast_pos.2 hd
  have scaled : (n / d : ℚ) - nearest n d = (n - nearest n d * d) / d := by field_simp
  have upper' : (2 * (nearest n d * d) : ℚ) ≤ 2 * n + d := by exact_mod_cast upper
  have lower' : (2 * n : ℚ) ≤ 2 * (nearest n d * d) + d := by exact_mod_cast lower
  rw [scaled, abs_div, abs_of_pos pos, div_le_iff₀ pos, div_lt_iff₀ pos, abs_le, abs_lt]
  refine ⟨⟨by linarith, by linarith⟩, fun h => ?_⟩
  obtain ⟨strict, strict'⟩ := odd h
  have : (2 * (nearest n d * d) : ℚ) < 2 * n + d := by exact_mod_cast strict
  have : (2 * n : ℚ) < 2 * (nearest n d * d) + d := by exact_mod_cast strict'
  exact ⟨by linarith, by linarith⟩

def place (n d : Nat) (e : Int) : ℚ := 2 ^ (e + spare (n / d))

theorem div_mul_eq (hd : 0 < d) :
    (n / d : ℚ) * 2 ^ e = n / ((d * 2 ^ spare (n / d) : Nat) : ℚ) * place n d e := by
  have : (d : ℚ) ≠ 0 := Nat.cast_ne_zero.2 hd.ne'
  rw [place, zpow_add₀ two_ne_zero, zpow_natCast]
  push_cast
  field_simp

theorem place_pos : 0 < place n d e := by
  unfold place
  positivity

theorem quotient_mem_place (hd : 0 < d) (full : 2 ^ 52 ≤ n / d) :
    2 ^ 52 * place n d e ≤ (n / d : ℚ) * 2 ^ e ∧ (n / d : ℚ) * 2 ^ e < 2 ^ 53 * place n d e := by
  have pos : 0 < d * 2 ^ spare (n / d) := Nat.mul_pos hd (Nat.two_pow_pos _)
  have pos' : (0 : ℚ) < (d * 2 ^ spare (n / d) : Nat) := Nat.cast_pos.2 pos
  obtain ⟨least, most⟩ := quotient_mem full
  rw [Nat.le_div_iff_mul_le pos] at least
  rw [Nat.div_lt_iff_lt_mul pos] at most
  rw [div_mul_eq hd]
  constructor
  · refine mul_le_mul_of_nonneg_right ?_ place_pos.le
    rw [le_div_iff₀ pos']
    exact_mod_cast least
  · refine mul_lt_mul_of_pos_right ?_ place_pos
    rw [div_lt_iff₀ pos']
    exact_mod_cast most

theorem abs_sub_nearest_le (hd : 0 < d) :
    let m := nearest n (d * 2 ^ spare (n / d))
    |(n / d : ℚ) * 2 ^ e - m * place n d e| ≤ place n d e / 2 ∧
      (m % 2 = 1 → |(n / d : ℚ) * 2 ^ e - m * place n d e| < place n d e / 2) := by
  intro m
  have unit : 0 < place n d e := place_pos
  have pos : 0 < d * 2 ^ spare (n / d) := Nat.mul_pos hd (Nat.two_pow_pos _)
  obtain ⟨near, odd⟩ := abs_div_sub_le (n := n) pos
  rw [div_mul_eq hd, ← sub_mul, abs_mul, abs_of_pos unit]
  refine ⟨?_, fun h => ?_⟩
  · have := mul_le_mul_of_nonneg_right near unit.le
    linarith
  · have := mul_lt_mul_of_pos_right (odd h) unit
    linarith

theorem within_rounded (hd : 0 < d) (full : 2 ^ 52 ≤ n / d) :
    (rounded n d e).interval.Within (n / d * 2 ^ e) :=
  within_carried (nearest_quotient_mem full).1 (quotient_mem_place hd full).1
    (abs_sub_nearest_le hd).1 (abs_sub_nearest_le hd).2

theorem normal_rounded (hd : 0 < d) (full : 2 ^ 52 ≤ n / d) (above : -1074 < e)
    (below : (n / d : ℚ) * 2 ^ e < 2 ^ 1023) : (rounded n d e).Normal := by
  obtain ⟨least, most⟩ := nearest_quotient_mem full
  have exponent : e + spare (n / d) ≤ 970 := by
    have small : (2 : ℚ) ^ (52 + (e + spare (n / d))) < 2 ^ (1023 : ℤ) := by
      rw [zpow_add₀ two_ne_zero]
      exact (quotient_mem_place hd full).1.trans_lt below
    have := (zpow_lt_zpow_iff_right₀ one_lt_two).1 small
    omega
  rw [rounded, carried]
  split
  · refine ⟨?_, ?_, ?_, ?_, rfl⟩ <;> dsimp only <;> omega
  · refine ⟨?_, ?_, ?_, ?_, rfl⟩ <;> dsimp only <;> omega

theorem rounds_rounded (hd : 0 < d) (full : 2 ^ 52 ≤ n / d) (above : -1074 < e)
    (below : (n / d : ℚ) * 2 ^ e < 2 ^ 1023) : (rounded n d e).Rounds (n / d * 2 ^ e) :=
  ⟨normal_rounded hd full above below, within_rounded hd full⟩

end Rounded

end Binary

end SheetScript.Decimal
