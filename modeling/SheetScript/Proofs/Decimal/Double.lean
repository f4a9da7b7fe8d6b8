import SheetScript.Decimal.Read
import SheetScript.Proofs.Decimal.Interval

namespace SheetScript.Decimal

open Float.Model Float.Model.UnpackedFloat

theorem unpackSign_packComponents {spec : Format} {sign : Sign} {e : BitVec spec.exponentBits}
    {m : BitVec spec.mantissaBitsWithoutImplicit} :
    unpackSign (packComponents spec sign e m) = sign.toBitVec := by
  refine BitVec.eq_of_getLsbD_eq fun i hi => ?_
  obtain rfl : i = 0 := by omega
  delta unpackSign
  simp [packComponents, BitVec.getLsbD_append, BitVec.getElem_append]

theorem exists_unpack_eq {b : BitVec Format.binary64.numBits} (inner : unpackExponent b ≠ -1#11)
    (normal : unpackExponent b ≠ 0#11) : ∃ pos, UnpackedFloat.unpack .binary64 b =
      .finite (.ofBitVec (unpackSign b)) (1#1 ++ unpackMantissa b).toNat
        ((unpackExponent b).toNat - (Format.binary64.exponentBias + (52 : Nat))) pos :=
  ⟨_, (if_neg inner).trans (if_neg normal)⟩

theorem toNat_packComponents_positive (e : BitVec 11) (m : BitVec 52) :
    (packComponents .binary64 .positive e m).toNat = e.toNat * 2 ^ 52 + m.toNat := by
  rw [packComponents, BitVec.toNat_append, BitVec.toNat_append,
    ← Nat.shiftLeft_add_eq_or_of_lt m.isLt, ← Nat.shiftLeft_add_eq_or_of_lt e.isLt]
  simp [Sign.toBitVec, Nat.shiftLeft_eq]

theorem toNat_append_implicit (m : BitVec 52) : (1#1 ++ m).toNat = 2 ^ 52 + m.toNat := by
  rw [BitVec.toNat_append, ← Nat.shiftLeft_add_eq_or_of_lt m.isLt]
  rfl

section Operations

variable (f g : Float)

theorem add_eq_pack : f + g =
    .ofModel (.pack (UnpackedFloat.add .binary64 f.toModel.unpack g.toModel.unpack)) := rfl

theorem mul_eq_pack : f * g =
    .ofModel (.pack (UnpackedFloat.mul .binary64 f.toModel.unpack g.toModel.unpack)) := rfl

theorem div_eq_pack : f / g =
    .ofModel (.pack (UnpackedFloat.div .binary64 f.toModel.unpack g.toModel.unpack)) := rfl

end Operations

namespace Binary

def float (x : Binary) : Float := .ofModel (.pack x.unpacked)

def biased (x : Binary) : Nat := (x.exponent + 1075).toNat

def quotient (x y : Binary) : Binary :=
  rounded (x.mantissa * 2 ^ 53) y.mantissa (x.exponent - y.exponent - 53)

def total (x y : Binary) : Nat :=
  x.mantissa * 2 ^ (x.exponent - min x.exponent y.exponent).toNat +
    y.mantissa * 2 ^ (y.exponent - min x.exponent y.exponent).toNat

def sum (x y : Binary) : Binary := rounded (total x y) 1 (min x.exponent y.exponent)

namespace Normal

variable {x y : Binary}

theorem log2_mantissa (h : x.Normal) : x.mantissa.log2 = 52 :=
  (Nat.log2_eq_iff h.mantissa_pos.ne').2 ⟨h.full, h.fits⟩

theorem unpacked_eq (h : x.Normal) :
    x.unpacked = .finite .positive x.mantissa x.exponent h.mantissa_pos :=
  unpacked_of_pos h.mantissa_pos

theorem biased_eq (h : x.Normal) : (biased x : Int) = x.exponent + 1075 :=
  Int.toNat_of_nonneg (by have := h.above; omega)

theorem biased_mem (h : x.Normal) : 1 < biased x ∧ biased x ≤ 2046 := by
  have := h.biased_eq
  have := h.above
  have := h.below
  omega

theorem pack_unpacked (h : x.Normal) : UnpackedFloat.pack .binary64 x.unpacked =
    packComponents .binary64 .positive (.ofNat 11 (biased x)) (.ofNat 52 x.mantissa) := by
  have bias : x.exponent + Format.binary64.exponentBias +
      Format.binary64.mantissaBitsWithoutImplicit = x.exponent + 1075 := by
    exact Int.add_assoc x.exponent 1023 52
  have small : ¬ 2 ^ 11 ≤ (x.exponent + 1075).toNat + 1 := by
    have := h.biased_mem
    unfold biased at this
    omega
  rw [h.unpacked_eq]
  delta UnpackedFloat.pack
  dsimp only
  rw [bias, h.log2_mantissa, if_neg small, if_pos (by rfl)]
  rfl

theorem toNat_biased (h : x.Normal) : (BitVec.ofNat 11 (biased x)).toNat = biased x := by
  have := h.biased_mem
  rw [BitVec.toNat_ofNat, Nat.mod_eq_of_lt (by omega)]

theorem mantissa_mod (h : x.Normal) : x.mantissa % 2 ^ 52 + 2 ^ 52 = x.mantissa := by
  have := h.full
  have := h.fits
  omega

theorem unpack_float (h : x.Normal) : x.float.toModel.unpack = x.unpacked := by
  have inner : BitVec.ofNat 11 (biased x) ≠ -1#11 := by
    intro eq
    have := h.biased_mem
    have : biased x = 2047 := h.toNat_biased.symm.trans (congrArg BitVec.toNat eq)
    omega
  have pos : BitVec.ofNat 11 (biased x) ≠ 0#11 := by
    intro eq
    have := h.biased_mem
    have : biased x = 0 := h.toNat_biased.symm.trans (congrArg BitVec.toNat eq)
    omega
  have mantissa : (1#1 ++ BitVec.ofNat 52 x.mantissa).toNat = x.mantissa := by
    rw [toNat_append_implicit, BitVec.toNat_ofNat, Nat.add_comm, h.mantissa_mod]
  have exponent : ((BitVec.ofNat 11 (biased x)).toNat : Int) -
      (Format.binary64.exponentBias + (52 : Nat)) = x.exponent := by
    rw [h.toNat_biased, h.biased_eq]
    exact Int.add_sub_cancel x.exponent 1075
  change UnpackedFloat.unpack .binary64 (UnpackedFloat.pack .binary64 x.unpacked) = _
  rw [h.pack_unpacked, h.unpacked_eq]
  obtain ⟨_, unpacked⟩ := exists_unpack_eq (b := packComponents .binary64 .positive
    (.ofNat 11 (biased x)) (.ofNat 52 x.mantissa))
    (by rwa [unpackExponent_packComponents]) (by rwa [unpackExponent_packComponents])
  rw [unpacked]
  refine finite_congr ?_ ?_ ?_ _ _
  · rw [unpackSign_packComponents]
    rfl
  · rw [unpackMantissa_packComponents, mantissa]
  · rw [unpackExponent_packComponents, exponent]

theorem toNat_toBits_float (h : x.Normal) :
    x.float.toBits.toNat = biased x * 2 ^ 52 + x.mantissa % 2 ^ 52 := by
  change (UnpackedFloat.pack .binary64 x.unpacked).toNat = _
  rw [h.pack_unpacked, toNat_packComponents_positive, h.toNat_biased, BitVec.toNat_ofNat]

theorem ofBits_toBits_float (h : x.Normal) : ofBits x.float.toBits = x := by
  have bits := h.toNat_toBits_float
  have := h.biased_mem
  have fraction := h.mantissa_mod
  obtain ⟨e, he⟩ : ∃ e, biased x = e + 1 := ⟨biased x - 1, by omega⟩
  have magnitude : x.float.toBits.toNat % Nat.pow 2 63 =
      (e + 1) * 2 ^ 52 + x.mantissa % 2 ^ 52 := by
    rw [bits, he]
    exact Nat.mod_eq_of_lt (by change _ < 2 ^ 63; omega)
  have top : ((e + 1) * 2 ^ 52 + x.mantissa % 2 ^ 52) / Nat.pow 2 52 = e + 1 := by
    change _ / 2 ^ 52 = _
    omega
  have bottom : ((e + 1) * 2 ^ 52 + x.mantissa % 2 ^ 52) % Nat.pow 2 52 =
      x.mantissa % 2 ^ 52 := by
    change _ % 2 ^ 52 = _
    omega
  have exponent : (e : Int) - 1074 = x.exponent := by
    have := h.biased_eq
    omega
  have lowest : (decide (x.mantissa % 2 ^ 52 = 0) && decide (e ≠ 0)) = x.lowest := by
    rw [h.lowest, ← Bool.decide_and, decide_eq_decide]
    omega
  have mantissa : Nat.pow 2 52 + x.mantissa % 2 ^ 52 = x.mantissa :=
    (Nat.add_comm _ _).trans fraction
  rw [ofBits]
  simp only [magnitude, top, bottom]
  rw [mantissa, exponent, lowest]

theorem isInf_float (h : x.Normal) : x.float.isInf = false := by
  change x.float.toModel.unpack.isInf = false
  rw [h.unpack_float, h.unpacked_eq]
  rfl

theorem text_float (h : x.Normal) (l : Layout) : l.text x.float = l.write x.shortest := by
  have nan : x.float.isNaN = false := by
    change x.float.toModel.unpack.isNaN = false
    rw [h.unpack_float, h.unpacked_eq]
    rfl
  have bits := h.toNat_toBits_float
  have := h.biased_mem
  have positive : ¬ Nat.pow 2 63 ≤ x.float.toBits.toNat := by
    change ¬ 2 ^ 63 ≤ _
    omega
  have nonzero : x.float.toBits.toNat % Nat.pow 2 63 ≠ 0 := by
    change _ % 2 ^ 63 ≠ 0
    omega
  simp only [Layout.text, nan, h.isInf_float, Bool.false_eq_true, if_false, if_neg positive,
    if_neg nonzero, h.ofBits_toBits_float]
  exact String.empty_append

theorem divCore_eq (hx : x.Normal) (hy : y.Normal) (range : -1021 ≤ x.exponent - y.exponent) :
    divCore .binary64 x.mantissa x.exponent y.mantissa y.exponent =
      (x.mantissa * 2 ^ 53 / y.mantissa, x.exponent - y.exponent - 53,
        accuracyOfFraction (x.mantissa * 2 ^ 53 % y.mantissa) y.mantissa) := by
  have target : min (x.exponent - y.exponent) (Format.binary64.targetExponent
      (totalExponent x.mantissa x.exponent - totalExponent y.mantissa y.exponent)) =
      x.exponent - y.exponent - 53 := by
    rw [targetExponent_eq, totalExponent, totalExponent, hx.log2_mantissa, hy.log2_mantissa]
    omega
  have shift : (x.exponent - y.exponent - (x.exponent - y.exponent - 53)).toNat = 53 := by omega
  rw [divCore]
  simp only [target, shift, Nat.shiftLeft_eq]

theorem le_quotient (hx : x.Normal) (hy : y.Normal) :
    2 ^ 52 ≤ x.mantissa * 2 ^ 53 / y.mantissa := by
  have := hx.full
  have := hy.fits
  rw [Nat.le_div_iff_mul_le hy.mantissa_pos]
  omega

theorem div_float (hx : x.Normal) (hy : y.Normal) (range : -1021 ≤ x.exponent - y.exponent) :
    x.float / y.float = (quotient x y).float := by
  have rounded : UnpackedFloat.div .binary64 x.unpacked y.unpacked = (quotient x y).unpacked := by
    rw [quotient, ← roundWithAccuracy_eq hy.mantissa_pos (hx.le_quotient hy) (by omega),
      hx.unpacked_eq, hy.unpacked_eq]
    delta UnpackedFloat.div
    dsimp only
    rw [hx.divCore_eq hy range]
    rfl
  rw [div_eq_pack, hx.unpack_float, hy.unpack_float, rounded, float]

theorem rounds_quotient (hx : x.Normal) (hy : y.Normal) (range : -1021 < x.exponent - y.exponent)
    (below : x.value / y.value < 2 ^ 1023) : (quotient x y).Rounds (x.value / y.value) := by
  have pos : (y.mantissa : ℚ) ≠ 0 := Nat.cast_ne_zero.2 hy.mantissa_pos.ne'
  have exact : ((x.mantissa * 2 ^ 53 : Nat) / y.mantissa : ℚ) *
      2 ^ (x.exponent - y.exponent - 53) = x.value / y.value := by
    rw [value, value, zpow_sub₀ two_ne_zero, zpow_sub₀ two_ne_zero]
    push_cast
    field_simp
  have rounds := rounds_rounded (n := x.mantissa * 2 ^ 53) (e := x.exponent - y.exponent - 53)
    hy.mantissa_pos (hx.le_quotient hy) (by omega) (by rwa [exact])
  rwa [exact] at rounds

theorem le_total (hx : x.Normal) : 2 ^ 52 ≤ total x y / 1 := by
  have : x.mantissa ≤ x.mantissa * 2 ^ (x.exponent - min x.exponent y.exponent).toNat :=
    Nat.le_mul_of_pos_right _ (by positivity)
  have := hx.full
  rw [Nat.div_one, total]
  omega

theorem add_float (hx : x.Normal) (hy : y.Normal) : x.float + y.float = (sum x y).float := by
  have rounded : UnpackedFloat.add .binary64 x.unpacked y.unpacked = (sum x y).unpacked := by
    have range : -1074 ≤ min x.exponent y.exponent := by
      have := hx.above
      have := hy.above
      omega
    have full : 2 ^ 52 ≤ total x y := by simpa using hx.le_total
    have pos : 0 < total x y := lt_of_lt_of_le (by decide) full
    rw [sum, ← round_eq full range, ← normalize_of_pos pos, hx.unpacked_eq, hy.unpacked_eq]
    delta UnpackedFloat.add
    dsimp only
    simp only [decreaseExponent, Nat.shiftLeft_eq, total, Nat.cast_add]
    rfl
  rw [add_eq_pack, hx.unpack_float, hy.unpack_float, rounded, float]

theorem pow_sub_mul {e e' : Int} (le : e' ≤ e) : (2 : ℚ) ^ (e - e').toNat * 2 ^ e' = 2 ^ e := by
  rw [← zpow_natCast, Int.toNat_of_nonneg (by omega), ← zpow_add₀ two_ne_zero, Int.sub_add_cancel]

theorem total_mul (x y : Binary) :
    (total x y : ℚ) / (1 : Nat) * 2 ^ min x.exponent y.exponent = x.value + y.value := by
  rw [Nat.cast_one, div_one, total, value, value,
    ← pow_sub_mul (Int.min_le_left x.exponent y.exponent),
    ← pow_sub_mul (Int.min_le_right x.exponent y.exponent)]
  push_cast
  ring

theorem rounds_sum (hx : x.Normal) (hy : y.Normal) (below : x.value + y.value < 2 ^ 1023) :
    (sum x y).Rounds (x.value + y.value) := by
  have above : -1074 < min x.exponent y.exponent := by
    have := hx.above
    have := hy.above
    omega
  have rounds := rounds_rounded Nat.one_pos hx.le_total above (by rwa [total_mul])
  rwa [total_mul] at rounds

theorem mul_float (hx : x.Normal) (hy : y.Normal) (range : -1074 ≤ x.exponent + y.exponent) :
    x.float * y.float =
      (rounded (x.mantissa * y.mantissa) 1 (x.exponent + y.exponent)).float := by
  have full : 2 ^ 52 ≤ x.mantissa * y.mantissa :=
    hx.full.trans (Nat.le_mul_of_pos_right _ hy.mantissa_pos)
  have product : UnpackedFloat.mul .binary64 x.unpacked y.unpacked =
      (rounded (x.mantissa * y.mantissa) 1 (x.exponent + y.exponent)).unpacked := by
    rw [← roundWithAccuracy_exact full range, hx.unpacked_eq, hy.unpacked_eq]
    rfl
  rw [mul_eq_pack, hx.unpack_float, hy.unpack_float, product, float]

theorem log2_shift (h : x.Normal) (s : Nat) : (x.mantissa * 2 ^ s).log2 = 52 + s := by
  have pos : x.mantissa * 2 ^ s ≠ 0 := (Nat.mul_pos h.mantissa_pos (Nat.two_pow_pos s)).ne'
  rw [Nat.log2_eq_iff pos, Nat.pow_add, Nat.add_right_comm, Nat.pow_add]
  exact ⟨Nat.mul_le_mul_right _ h.full, Nat.mul_lt_mul_of_pos_right h.fits (Nat.two_pow_pos s)⟩

theorem carried_eq (h : x.Normal) : carried x.mantissa x.exponent = x := by
  have := h.fits
  rw [carried, if_neg (by omega), ← h.lowest]

theorem rounded_shift (h : x.Normal) (s : Nat) :
    rounded (x.mantissa * 2 ^ s) 1 (x.exponent - s) = x := by
  simp only [rounded, spare, Nat.div_one, h.log2_shift, Nat.add_sub_cancel_left, Nat.one_mul,
    nearest_mul (Nat.two_pow_pos s), Int.sub_add_cancel]
  exact h.carried_eq

end Normal

def ofNat (n : Nat) : Binary :=
  ⟨n * 2 ^ (52 - n.log2), -(52 - n.log2 : Nat), n * 2 ^ (52 - n.log2) = 2 ^ 52⟩

section OfNat

variable {n : Nat}

theorem normal_ofNat (pos : 0 < n) (fits : n < 2 ^ 53) : (ofNat n).Normal := by
  have digits : n.log2 ≤ 52 := Nat.le_of_lt_succ ((Nat.log2_lt pos.ne').2 fits)
  have lower : 2 ^ n.log2 ≤ n := Nat.log2_self_le pos.ne'
  have upper : n < 2 ^ (n.log2 + 1) := Nat.lt_log2_self
  have full : 2 ^ 52 = 2 ^ n.log2 * 2 ^ (52 - n.log2) := by
    rw [← Nat.pow_add, Nat.add_sub_cancel' digits]
  have above : 2 ^ 53 = 2 ^ (n.log2 + 1) * 2 ^ (52 - n.log2) := by
    rw [← Nat.pow_add]
    congr 1
    omega
  refine ⟨?_, ?_, ?_, ?_, rfl⟩
  · rw [full]
    exact Nat.mul_le_mul_right _ lower
  · rw [above]
    exact Nat.mul_lt_mul_of_pos_right upper (Nat.two_pow_pos _)
  · change -1074 < -((52 - n.log2 : Nat) : Int)
    omega
  · change -((52 - n.log2 : Nat) : Int) ≤ 971
    omega

theorem exponent_ofNat (n : Nat) : (ofNat n).exponent = -((52 - n.log2 : Nat) : Int) := rfl

theorem value_ofNat (n : Nat) : (ofNat n).value = n := by
  have shift : (2 : ℚ) ^ (52 - n.log2) * 2 ^ (-((52 - n.log2 : Nat) : Int)) = 1 := by
    rw [← zpow_natCast, ← zpow_add₀ two_ne_zero, add_neg_cancel, zpow_zero]
  rw [value, exponent_ofNat, ofNat, Nat.cast_mul, Nat.cast_pow, Nat.cast_ofNat, mul_assoc, shift,
    mul_one]

theorem round_ofNat (pos : 0 < n) (fits : n < 2 ^ 53) :
    UnpackedFloat.round .binary64 .positive n 0 = (ofNat n).unpacked := by
  have normal := normal_ofNat pos fits
  have digits : n.log2 ≤ 52 := Nat.le_of_lt_succ ((Nat.log2_lt pos.ne').2 fits)
  have exponent := exponent_ofNat n
  have target : Format.binary64.targetExponent (totalExponent n 0) = (ofNat n).exponent := by
    rw [targetExponent_eq, totalExponent, exponent]
    omega
  have shift : (0 - (ofNat n).exponent).toNat = 52 - n.log2 := by omega
  have shifted : (0 : Int) - (52 - n.log2 : Nat) = (ofNat n).exponent - (0 : Nat) := by omega
  have exact := normal.rounded_shift 0
  rw [Nat.pow_zero, Nat.mul_one] at exact
  rw [UnpackedFloat.round]
  simp only [decreaseExponent, target, shift, shifted, Nat.shiftLeft_eq]
  exact (roundWithAccuracy_exact normal.full (by omega)).trans (congrArg unpacked exact)

def one : Binary := ⟨2 ^ 52, -52, true⟩

def hundred : Binary := ⟨100 * 2 ^ 46, -46, false⟩

theorem float_one : Float.ofBits 0x3FF0000000000000 = one.float := rfl

theorem float_hundred : (100.0 : Float) = hundred.float := rfl

theorem normal_one : one.Normal := ⟨by decide, by decide, by decide, by decide, by decide⟩

theorem normal_hundred : hundred.Normal := ⟨by decide, by decide, by decide, by decide, by decide⟩

theorem toFloat_toUInt64 (pos : 0 < n) (fits : n < 2 ^ 53) :
    n.toUInt64.toFloat = (ofNat n).float := by
  have value : n.toUInt64.toNat = n := Nat.mod_eq_of_lt (by omega)
  change Float.ofModel (.pack (UnpackedFloat.normalize .binary64 (n.toUInt64.toNat : Nat) 0
    .positive)) = _
  rw [value, normalize_of_pos pos, round_ofNat pos fits, float]

theorem nearestDouble_eq (fits : n < 2 ^ 53) : nearestDouble n 0 = (ofNat n).float := by
  rcases Nat.eq_zero_or_pos n with rfl | pos
  · rfl
  have normal := normal_ofNat pos fits
  have scaled : nearestDouble n 0 = n.toUInt64.toFloat * Float.ofBits 0x3FF0000000000000 :=
    dif_pos ⟨fits, by decide⟩
  have range : -1074 ≤ (ofNat n).exponent + one.exponent := by
    have : one.exponent = -52 := rfl
    have := exponent_ofNat n
    omega
  rw [scaled, toFloat_toUInt64 pos fits, float_one, normal.mul_float normal_one range]
  exact congrArg float (normal.rounded_shift 52)

end OfNat

theorem unpack_zero : (ofNat 0).float.toModel.unpack = .zero .positive := rfl

theorem zero_div_hundred : (ofNat 0).float / (100.0 : Float) = (ofNat 0).float := rfl

namespace Normal

variable {x : Binary}

theorem add_zero (h : x.Normal) : x.float + (ofNat 0).float = x.float := by
  rw [add_eq_pack, h.unpack_float, unpack_zero, float, h.unpacked_eq]
  rfl

theorem zero_add (h : x.Normal) : (ofNat 0).float + x.float = x.float := by
  rw [add_eq_pack, h.unpack_float, unpack_zero, float, h.unpacked_eq]
  rfl

end Normal

end Binary

end SheetScript.Decimal
