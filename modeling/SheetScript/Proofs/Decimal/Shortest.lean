import SheetScript.Proofs.Decimal.Interval

namespace SheetScript.Decimal

def Scientific.value (x : Scientific) : ℚ := x.coefficient * 10 ^ x.exponent

namespace Interval

variable {i : Interval} {g g₀ : Int} {k z : Nat}

def unit (i : Interval) (g : Int) : Nat := i.den * Nat.pow 10 g.toNat

def scale (g : Int) : Nat := Nat.pow 10 (-g).toNat

def floor (i : Interval) (g : Int) : Nat := i.value * scale g / i.unit g

def precedes (i : Interval) (a b : Nat) : Bool := if i.closed then a ≤ b else a < b

structure Proper (i : Interval) : Prop where
  den : 0 < i.den
  lo : i.lo < i.value
  hi : i.value < i.hi

theorem unit_pos (proper : i.Proper) : 0 < i.unit g :=
  Nat.mul_pos proper.den (Nat.pow_pos (by decide))

theorem scale_pos : 0 < scale g := Nat.pow_pos (by decide)

theorem unit_eq (i : Interval) (g : Int) : (i.unit g : ℚ) = 10 ^ g * i.den * scale g := by
  have split : ((Nat.pow 10 g.toNat : Nat) : ℚ) = 10 ^ g * ((scale g : Nat) : ℚ) := by
    exact_mod_cast pow_toNat (by norm_num : (10 : ℚ) ≠ 0) g
  rw [unit, Nat.cast_mul, split]
  ring

theorem precedes_iff {a b : Nat} : i.precedes a b = true ↔ i.Precedes a b := by
  unfold precedes Precedes
  split <;> simp

theorem within_iff : i.Within (k * 10 ^ g) ↔
    i.precedes (i.lo * scale g) (k * i.unit g) = true ∧
      i.precedes (k * i.unit g) (i.hi * scale g) = true := by
  have pos : (0 : ℚ) < scale g := Nat.cast_pos.2 scale_pos
  have multiple : ((k * i.unit g : Nat) : ℚ) = k * 10 ^ g * i.den * scale g := by
    rw [Nat.cast_mul, unit_eq]
    ring
  rw [precedes_iff, precedes_iff, multiple, Nat.cast_mul, Nat.cast_mul, precedes_mul_iff pos,
    precedes_mul_iff pos, Within]

theorem nearest?_cases (i : Interval) (g : Int) :
    (i.nearest? g = none ∧ i.precedes (i.lo * scale g) (i.floor g * i.unit g) = false ∧
      i.precedes ((i.floor g + 1) * i.unit g) (i.hi * scale g) = false) ∨
    (i.nearest? g = some (i.floor g) ∧
      i.precedes (i.lo * scale g) (i.floor g * i.unit g) = true) ∨
    (i.nearest? g = some (i.floor g + 1) ∧
      i.precedes ((i.floor g + 1) * i.unit g) (i.hi * scale g) = true) := by
  unfold nearest?
  dsimp only
  split
  · rename_i below above
    exact .inl ⟨rfl, below, above⟩
  · rename_i below above
    exact .inr (.inl ⟨rfl, below⟩)
  · rename_i below above
    exact .inr (.inr ⟨rfl, above⟩)
  · rename_i below above
    split
    · exact .inr (.inl ⟨rfl, below⟩)
    · exact .inr (.inr ⟨rfl, above⟩)
    · split
      · exact .inr (.inl ⟨rfl, below⟩)
      · exact .inr (.inr ⟨rfl, above⟩)

theorem within_of_nearest? (proper : i.Proper) (h : i.nearest? g = some k) :
    i.Within (k * 10 ^ g) := by
  have below : i.floor g * i.unit g ≤ i.value * scale g := Nat.div_mul_le_self _ _
  have above : i.value * scale g < (i.floor g + 1) * i.unit g := by
    rw [Nat.mul_comm (_ + 1)]
    exact Nat.lt_mul_div_succ _ (unit_pos proper)
  have lo := Nat.mul_lt_mul_of_pos_right proper.lo (scale_pos (g := g))
  have hi := Nat.mul_lt_mul_of_pos_right proper.hi (scale_pos (g := g))
  rw [within_iff]
  rcases i.nearest?_cases g with ⟨none, -⟩ | ⟨taken, first⟩ | ⟨taken, second⟩
  · simp [none] at h
  · obtain rfl : i.floor g = k := Option.some.inj (taken.symm.trans h)
    exact ⟨first, precedes_iff.2 (precedes_of_lt (by exact_mod_cast below.trans_lt hi))⟩
  · obtain rfl : i.floor g + 1 = k := Option.some.inj (taken.symm.trans h)
    exact ⟨precedes_iff.2 (precedes_of_lt (by exact_mod_cast lo.trans above)), second⟩

theorem exists_nearest? (h : i.Within (z * 10 ^ g)) : ∃ k, i.nearest? g = some k := by
  rw [within_iff, precedes_iff, precedes_iff] at h
  obtain ⟨lo, hi⟩ := h
  rcases i.nearest?_cases g with ⟨-, below, above⟩ | ⟨taken, -⟩ | ⟨taken, -⟩
  · exfalso
    rcases Nat.lt_or_ge (i.floor g) z with after | before
    · have le : (i.floor g + 1) * i.unit g ≤ z * i.unit g := Nat.mul_le_mul_right _ after
      have := precedes_iff.2 (hi.le_trans (by exact_mod_cast le))
      simp [above] at this
    · have le : z * i.unit g ≤ i.floor g * i.unit g := Nat.mul_le_mul_right _ before
      have := precedes_iff.2 (lo.trans_le (by exact_mod_cast le))
      simp [below] at this
  · exact ⟨_, taken⟩
  · exact ⟨_, taken⟩

/-- The search stops at the first grid with a point within, so that no such point lies on a coarser
grid among those tried. -/
theorem search_spec (proper : i.Proper) {grids : Nat} (tried : g - grids < g₀) (le : g₀ ≤ g)
    (h : i.Within (z * 10 ^ g₀)) :
    i.Within (i.search grids g).value ∧ g₀ ≤ (i.search grids g).exponent := by
  induction grids generalizing g with
  | zero => omega
  | succ grids ih =>
    rw [search]
    cases found : i.nearest? g with
    | some k => exact ⟨within_of_nearest? proper found, le⟩
    | none =>
      have ne : g₀ ≠ g := by
        rintro rfl
        obtain ⟨k, taken⟩ := exists_nearest? h
        simp [taken] at found
      exact ih (by omega) (by omega)

end Interval

namespace Binary

variable {x : Binary} {g : Int} {z : Nat}

theorem proper_interval (pos : 0 < x.mantissa) : x.interval.Proper := by
  have up : 0 < Nat.pow 2 (x.exponent - 2).toNat := Nat.two_pow_pos _
  refine ⟨Nat.two_pow_pos _, ?_, ?_⟩
  · refine Nat.mul_lt_mul_of_pos_right ?_ up
    split <;> omega
  · exact Nat.mul_lt_mul_of_pos_right (by omega) up

theorem shortest_spec (pos : 0 < x.mantissa) (least : -325 ≤ g) (most : g ≤ 0)
    (h : x.interval.Within (z * 10 ^ g)) :
    x.interval.Within x.shortest.value ∧ g ≤ x.shortest.exponent :=
  Interval.search_spec (proper_interval pos) (by omega) (by omega) h

theorem within_value (pos : 0 < x.mantissa) : x.interval.Within x.value := by
  have unit : (0 : ℚ) < 2 ^ x.exponent := by positivity
  have reach : 0 < x.reach := by
    unfold reach
    split <;> linarith
  rw [within_iff pos]
  exact ⟨Interval.precedes_of_lt (by linarith), Interval.precedes_of_lt (by linarith)⟩

theorem value_eq_of_nonpos (most : x.exponent ≤ 0) :
    x.value = ((x.mantissa * 5 ^ (-x.exponent).toNat : Nat) : ℚ) * 10 ^ x.exponent := by
  have fives : ((5 ^ (-x.exponent).toNat : Nat) : ℚ) = (5 ^ x.exponent)⁻¹ := by
    rw [Nat.cast_pow, ← zpow_natCast, Int.toNat_of_nonneg (by omega), zpow_neg]
    rfl
  have tens : (10 : ℚ) ^ x.exponent = 2 ^ x.exponent * 5 ^ x.exponent := by
    rw [← mul_zpow]
    norm_num
  rw [value, Nat.cast_mul, fives, tens]
  field_simp

theorem within_shortest (pos : 0 < x.mantissa) (least : -325 ≤ x.exponent)
    (most : x.exponent ≤ 0) : x.interval.Within x.shortest.value :=
  (shortest_spec pos least most (value_eq_of_nonpos most ▸ within_value pos)).1

theorem value_shortest_eq (pos : 0 < x.mantissa) (least : -325 ≤ g) (most : g ≤ 0)
    (dense : (2 : ℚ) ^ x.exponent < 10 ^ g) (h : x.interval.Within (z * 10 ^ g)) :
    x.shortest.value = z * 10 ^ g := by
  obtain ⟨within, coarse⟩ := shortest_spec pos least most h
  have unit : (0 : ℚ) < 10 ^ g := by positivity
  obtain ⟨k, hk⟩ : ∃ k : Nat, x.shortest.value = k * 10 ^ g := by
    refine ⟨x.shortest.coefficient * 10 ^ (x.shortest.exponent - g).toNat, ?_⟩
    rw [Scientific.value, Nat.cast_mul, Nat.cast_pow, ← zpow_natCast, mul_assoc, Nat.cast_ofNat,
      ← zpow_add₀ (by norm_num)]
    congr 2
    omega
  have close : |(k : ℚ) * 10 ^ g - z * 10 ^ g| < 10 ^ g := by
    have first := abs_le.1 (abs_sub_value_le pos (hk ▸ within))
    have second := abs_le.1 (abs_sub_value_le pos h)
    rw [abs_lt]
    constructor <;> linarith
  rw [← sub_mul, abs_mul, abs_of_pos unit, mul_lt_iff_lt_one_left unit] at close
  have same : |((k : ℤ) - z)| < 1 := by exact_mod_cast close
  obtain rfl : k = z := by
    have := Int.abs_lt_one_iff.1 same
    omega
  exact hk

end Binary

end SheetScript.Decimal
