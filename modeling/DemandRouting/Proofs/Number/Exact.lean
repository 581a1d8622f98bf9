import DemandRouting.Proofs.Number.Sign

namespace DemandRouting.Number

open Float.Model Float.Model.UnpackedFloat

-- Rounding would give the mantissa no other exponent.
def Canonical (mantissa : Nat) (exponent : Int) : Prop :=
  Format.binary64.targetExponent (totalExponent mantissa exponent) = exponent

theorem canonical_iff {m : Nat} {e : Int} : Canonical m e ↔ max (m.log2 + 1 + e - 53) (-1074) = e :=
  Iff.rfl

theorem canonical_subnormal {m : Nat} (hm : 0 < m) (h : m < 2 ^ 52) : Canonical m (-1074) := by
  have hlog := (Nat.log2_lt hm.ne').mpr h
  rw [canonical_iff]
  omega

theorem canonical_normal {m : Nat} {e : Int} (hleading : 2 ^ 52 ≤ m) (hm : m < 2 ^ 53)
    (he : -1074 ≤ e) : Canonical m e := by
  have hne : m ≠ 0 := Nat.ne_of_gt (Nat.lt_of_lt_of_le (Nat.two_pow_pos 52) hleading)
  have hlow := (Nat.le_log2 hne).mpr hleading
  have hhigh := (Nat.log2_lt hne).mpr hm
  rw [canonical_iff]
  omega

-- The mantissa of a normal number, with the bit that is not stored.
theorem toNat_withLeadingBit (mantissa : BitVec 52) :
    (1#1 ++ mantissa).toNat = 2 ^ 52 + mantissa.toNat := by
  rw [BitVec.toNat_append]
  exact (Nat.two_pow_add_eq_or_of_lt mantissa.isLt 1).symm

theorem canonical_of_unpack {x : Float} {s : Sign} {m : Nat} {e : Int} {hm : 0 < m}
    (h : x.toModel.unpack = .finite s m e hm) : Canonical m e := by
  change UnpackedFloat.unpack .binary64 x.toModel.toBits.toBitVec = _ at h
  generalize (x.toModel.toBits.toBitVec : BitVec 64) = bits at h
  unfold UnpackedFloat.unpack at h
  simp only at h
  have hmantissa : (@unpackMantissa .binary64 bits).toNat < 2 ^ 52 :=
    (@unpackMantissa .binary64 bits).isLt
  split at h
  · split at h <;> cases h
  split at h
  · split at h
    · cases h
    rename_i hexponent _
    cases h
    rw [hexponent]
    exact canonical_subnormal hm hmantissa
  · rename_i hexponent
    cases h
    have hpos : (@unpackExponent .binary64 bits).toNat ≠ 0 := by
      intro hzero
      exact hexponent (BitVec.eq_of_toNat_eq hzero)
    apply canonical_normal
    · rw [toNat_withLeadingBit]
      exact Nat.le_add_right _ _
    · rw [toNat_withLeadingBit]
      omega
    · change -1074 ≤ _ - (1023 + 52 : Int)
      omega

theorem shiftRight_exact (m k : Nat) :
    (⟨m * 2 ^ k, false, false⟩ : ExtendedMantissa) >>> k = ⟨m, false, false⟩ := by
  induction k generalizing m with
  | zero => rw [pow_zero, mul_one]; rfl
  | succ k ih =>
    rw [pow_succ', ← mul_assoc]
    change ((⟨m * 2 * 2 ^ k, false, false⟩ : ExtendedMantissa) >>> k).shiftRightOne = _
    rw [ih]
    simp [ExtendedMantissa.shiftRightOne]

theorem log2_mul_two_pow {m : Nat} (hm : 0 < m) (k : Nat) : (m * 2 ^ k).log2 = m.log2 + k := by
  induction k with
  | zero => rw [pow_zero, mul_one, Nat.add_zero]
  | succ k ih =>
    rw [pow_succ', Nat.mul_left_comm, Nat.log2_two_mul (by positivity), ih, Nat.add_assoc]

theorem shiftToTargetExponent_exact {m : Nat} {e : Int} (h : Canonical m e) (hm : 0 < m) (k : Nat) :
    shiftToTargetExponent .binary64 (m * 2 ^ k) (e - k) .exact = (⟨m, false, false⟩, e) := by
  have htotal : totalExponent (m * 2 ^ k) (e - k) = totalExponent m e := by
    rw [totalExponent, totalExponent, log2_mul_two_pow hm]
    omega
  have htarget : Format.binary64.targetExponent (totalExponent (m * 2 ^ k) (e - k)) = e := by
    rw [htotal]
    exact h
  have hshift : (e - (e - k)).toNat = k := by omega
  rw [shiftToTargetExponent, htarget, shiftToExponent, hshift,
    ExtendedMantissa.ofMantissaAndAccuracy, shiftRight_exact, Int.sub_add_cancel]

-- The zeros behind a mantissa are rounded away, and nothing else.
theorem roundWithAccuracy_exact {m : Nat} {e : Int} (h : Canonical m e) (hm : 0 < m) (s : Sign)
    (k : Nat) :
    roundWithAccuracy .binary64 s (m * 2 ^ k) (e - k) .exact = .finite s m e hm := by
  -- once rounded, the mantissa stays where it is
  have hagain := shiftToTargetExponent_exact h hm 0
  rw [pow_zero, mul_one, Nat.cast_zero, Int.sub_zero] at hagain
  have hrounded : (⟨m, false, false⟩ : ExtendedMantissa).roundedMantissa = m := rfl
  simp only [roundWithAccuracy, shiftToTargetExponent_exact h hm k, hrounded, hagain, hm.ne',
    dite_false]

theorem mul_eq_of_unpack {x y z : Float}
    (h : UnpackedFloat.mul .binary64 x.toModel.unpack y.toModel.unpack = z.toModel.unpack) :
    x * y = z := by
  change Float.ofModel (Float.Model.pack (UnpackedFloat.mul .binary64 _ _)) = z
  rw [h, pack_unpack_self]

theorem div_eq_of_unpack {x y z : Float}
    (h : UnpackedFloat.div .binary64 x.toModel.unpack y.toModel.unpack = z.toModel.unpack) :
    x / y = z := by
  change Float.ofModel (Float.Model.pack (UnpackedFloat.div .binary64 _ _)) = z
  rw [h, pack_unpack_self]

theorem unpack_one :
    (1.0 : Float).toModel.unpack = .finite .positive (2 ^ 52) (-52) (by decide) := by
  rfl

theorem one_mul (x : Float) : 1.0 * x = x := by
  apply mul_eq_of_unpack
  rw [unpack_one]
  cases hx : x.toModel.unpack with
  | finite s m e hm =>
    have h := roundWithAccuracy_exact (canonical_of_unpack hx) hm s 52
    rw [Nat.mul_comm, Int.sub_eq_add_neg, Int.add_comm] at h
    cases s <;> exact h
  | notANumber => rfl
  | infinity s => cases s <;> rfl
  | zero s => cases s <;> rfl

-- The quotient is one, at the most places that a mantissa has.
theorem divCore_self {m : Nat} (hm : 0 < m) (e : Int) :
    divCore .binary64 m e m e = (2 ^ 52 * 2 ^ 1, -52 - 1, .exact) := by
  have hquotient : m <<< 53 / m = 2 ^ 53 := by
    rw [Nat.shiftLeft_eq, Nat.mul_div_cancel_left _ hm]
  have hremainder : m <<< 53 % m = 0 := by
    rw [Nat.shiftLeft_eq, Nat.mul_mod_right]
  have htarget : min (0 : Int) (Format.binary64.targetExponent 0) = -53 := by decide
  have hshift : (0 - -53 : Int).toNat = 53 := by decide
  simp only [divCore, Int.sub_self, htarget, hshift, hquotient, hremainder, accuracyOfFraction]
  rfl

section Weight

variable {w : Float} (hpos : 0.0 < w) (hfinite : w.isFinite = true)

include hpos hfinite

theorem unpack_of_pos : ∃ m e hm, w.toModel.unpack = .finite .positive m e hm := by
  rw [lt_iff, unpack_zero] at hpos
  change UnpackedFloat.isFinite w.toModel.unpack = true at hfinite
  cases hw : w.toModel.unpack with
  | finite s m e hm =>
    rw [hw] at hpos
    cases s with
    | positive => exact ⟨m, e, hm, rfl⟩
    | negative => cases hpos
  | zero s =>
    rw [hw] at hpos
    cases hpos
  | infinity s =>
    rw [hw] at hfinite
    cases hfinite
  | notANumber =>
    rw [hw] at hfinite
    cases hfinite

theorem div_self : w / w = 1.0 := by
  obtain ⟨m, e, hm, hw⟩ := unpack_of_pos hpos hfinite
  have h := roundWithAccuracy_exact (canonical_of_unpack unpack_one) (by decide) .positive 1
  apply div_eq_of_unpack
  rw [hw, unpack_one, ← h]
  simp only [UnpackedFloat.div, divCore_self hm]
  rfl

theorem zero_div : 0.0 / w = 0.0 := by
  obtain ⟨m, e, hm, hw⟩ := unpack_of_pos hpos hfinite
  apply div_eq_of_unpack
  rw [unpack_zero, hw]
  rfl

end Weight

-- Equal but for the sign of a zero.
def Same (x y : Float) : Prop := x = y ∨ IsZero x ∧ IsZero y

theorem Same.refl (x : Float) : Same x x := .inl rfl

-- What treats zeros alike keeps what is the same so.
theorem Same.map {x y : Float} (h : Same x y) {f : Float → Float}
    (hzero : ∀ z, IsZero z → IsZero (f z)) : Same (f x) (f y) := by
  rcases h with rfl | ⟨hx, hy⟩
  · exact .refl _
  · exact .inr ⟨hzero x hx, hzero y hy⟩

theorem same_zero_add (x : Float) : Same x (0.0 + x) := by
  by_cases hx : IsZero x
  · exact .inr ⟨hx, isZero_add isZero_zero hx⟩
  · exact .inl (zero_add_eq isZero_zero hx).symm

theorem Same.add {x x' y y' : Float} (hx : Same x x') (hy : Same y y') :
    Same (x + y) (x' + y') := by
  rcases hx with rfl | ⟨hx, hx'⟩ <;> rcases hy with rfl | ⟨hy, hy'⟩
  · exact .refl _
  · by_cases hx : IsZero x
    · exact .inr ⟨isZero_add hx hy, isZero_add hx hy'⟩
    · exact .inl (by rw [add_zero_eq hx hy, add_zero_eq hx hy'])
  · by_cases hy : IsZero y
    · exact .inr ⟨isZero_add hx hy, isZero_add hx' hy⟩
    · exact .inl (by rw [zero_add_eq hx hy, zero_add_eq hx' hy])
  · exact .inr ⟨isZero_add hx hy, isZero_add hx' hy'⟩

theorem unpack_mul (x y : Float) :
    (x * y).toModel.unpack = UnpackedFloat.unpack .binary64 (UnpackedFloat.pack .binary64
      (UnpackedFloat.mul .binary64 x.toModel.unpack y.toModel.unpack)) := rfl

theorem unpack_div (x y : Float) :
    (x / y).toModel.unpack = UnpackedFloat.unpack .binary64 (UnpackedFloat.pack .binary64
      (UnpackedFloat.div .binary64 x.toModel.unpack y.toModel.unpack)) := rfl

-- Infinity times zero would be NaN.
theorem isZero_zero_mul {x y : Float} (hx : IsZero x) (hy : y.isFinite = true) :
    IsZero (x * y) := by
  obtain ⟨s, hs⟩ := hx
  change UnpackedFloat.isFinite y.toModel.unpack = true at hy
  rw [IsZero, unpack_mul, hs]
  generalize y.toModel.unpack = v at hy
  cases v with
  | zero t => exact ⟨_, unpack_packedZero⟩
  | finite t m e hm => exact ⟨_, unpack_packedZero⟩
  | infinity t => cases hy
  | notANumber => cases hy

theorem isZero_mul_zero {x y : Float} (hx : x.isFinite = true) (hy : IsZero y) :
    IsZero (x * y) := by
  obtain ⟨t, ht⟩ := hy
  change UnpackedFloat.isFinite x.toModel.unpack = true at hx
  rw [IsZero, unpack_mul, ht]
  generalize x.toModel.unpack = u at hx
  cases u with
  | zero s => exact ⟨_, unpack_packedZero⟩
  | finite s m e hm => exact ⟨_, unpack_packedZero⟩
  | infinity s => cases hx
  | notANumber => cases hx

theorem isZero_div {x y : Float} (hx : IsZero x) (hy : 0.0 < y) : IsZero (x / y) := by
  obtain ⟨s, hs⟩ := hx
  rw [lt_iff, unpack_zero] at hy
  rw [IsZero, unpack_div, hs]
  generalize y.toModel.unpack = v at hy
  cases v with
  | finite t m e hm => exact ⟨_, unpack_packedZero⟩
  | infinity t => exact ⟨_, unpack_packedZero⟩
  | zero t => cases hy
  | notANumber => cases hy

section Order

variable {x y : Float} (hx : IsZero x)

include hx

theorem isNaN_of_isZero : x.isNaN = false := by
  obtain ⟨s, hs⟩ := hx
  rw [isNaN_eq_false_iff, hs]
  nofun

theorem lt_of_isZero (hy : 0.0 < y) : x < y := by
  obtain ⟨s, hs⟩ := hx
  rw [lt_iff, unpack_zero] at hy
  rw [lt_iff, hs]
  generalize y.toModel.unpack = v at hy ⊢
  cases v with
  | finite t => cases t <;> exact hy
  | infinity t => cases t <;> exact hy
  | zero t => cases hy
  | notANumber => cases hy

theorem clamp_of_isZero (hy : 0.0 ≤ y) : clamp 0.0 y x = x := by
  have habove : 0.0 ≤ x := by
    obtain ⟨s, hs⟩ := hx
    rw [zero_le_iff, hs]
    trivial
  have hnumber := isNaN_of_isZero hx
  rw [clamp, if_neg ((not_lt_iff hnumber rfl).mpr habove),
    if_neg ((not_lt_iff (isNaN_of_le hy).2 hnumber).mpr (le_of_isZero hx hy))]

end Order

theorem Same.beq {x y : Float} (h : Same x y) (hx : x.isNaN = false) : (x == y) = true := by
  change UnpackedFloat.beq x.toModel.unpack y.toModel.unpack = true
  rcases h with rfl | ⟨⟨s, hs⟩, t, ht⟩
  · rw [isNaN_eq_false_iff] at hx
    exact (UnpackedFloat.beq_iff_ne_notANumber_and_eq _ _).mpr ⟨hx, hx, .inl rfl⟩
  · rw [hs, ht]
    cases s <;> cases t <;> rfl

end DemandRouting.Number
