import DemandRouting.Json.Codec
import DemandRouting.Proofs.Number.Exact
import Mathlib.Data.Nat.Digits.Defs

namespace DemandRouting.Number

open Float.Model Float.Model.UnpackedFloat

-- A number with an exponent that can be stored.
inductive Storable : UnpackedFloat → Prop
  | zero (s : Sign) : Storable (.zero s)
  | finite {s : Sign} {m : Nat} {e : Int} {hm : 0 < m} (h : e ≤ 971) : Storable (.finite s m e hm)

theorem isFinite_unpack_packComponents {s : Sign} {e : BitVec 11} {m : BitVec 52}
    (h : e ≠ -1#11) :
    (UnpackedFloat.unpack .binary64 (packComponents .binary64 s e m)).isFinite = true := by
  have he : unpackExponent (packComponents .binary64 s e m) = e := unpackExponent_packComponents
  unfold UnpackedFloat.unpack
  simp only
  split
  · rename_i htop
    exact absurd (he.symm.trans htop) h
  · split
    · split <;> rfl
    · rfl

theorem isFinite_pack {u : UnpackedFloat} (h : Storable u) :
    (Float.ofModel (Float.Model.pack u)).isFinite = true := by
  change (UnpackedFloat.unpack .binary64 (UnpackedFloat.pack .binary64 u)).isFinite = true
  cases h with
  | zero s => cases s <;> rfl
  | @finite s m e hm he =>
    simp only [UnpackedFloat.pack]
    split
    · rename_i hlarge
      change 2048 ≤ (e + 1023 + 52).toNat + 1 at hlarge
      omega
    · split
      · apply isFinite_unpack_packComponents
        intro htop
        have hbiased := congrArg BitVec.toNat htop
        change (e + 1023 + 52).toNat % 2048 = 2047 at hbiased
        omega
      · apply isFinite_unpack_packComponents
        intro htop
        cases htop

theorem storable_unpack {x : Float} (h : x.isFinite = true) : Storable x.toModel.unpack := by
  change UnpackedFloat.isFinite (UnpackedFloat.unpack .binary64 x.toModel.toBits.toBitVec) = true
    at h
  change Storable (UnpackedFloat.unpack .binary64 x.toModel.toBits.toBitVec)
  generalize (x.toModel.toBits.toBitVec : BitVec 64) = bits at h
  unfold UnpackedFloat.unpack at h ⊢
  simp only at h ⊢
  have hbiased : (@unpackExponent .binary64 bits).toNat < 2048 :=
    (@unpackExponent .binary64 bits).isLt
  split
  · rename_i htop
    rw [if_pos htop] at h
    split at h <;> cases h
  · rename_i htop
    have hne : (@unpackExponent .binary64 bits).toNat ≠ 2047 :=
      fun heq => htop (BitVec.eq_of_toNat_eq heq)
    split
    · rename_i hsubnormal
      split
      · exact .zero _
      · apply Storable.finite
        rw [hsubnormal]
        change (0 : Int) - (1023 + 52) + 1 ≤ 971
        omega
    · apply Storable.finite
      change ((@unpackExponent .binary64 bits).toNat : Int) - (1023 + 52) ≤ 971
      generalize (@unpackExponent .binary64 bits).toNat = biased at hbiased hne ⊢
      omega

theorem isFinite_neg {x : Float} (h : x.isFinite = true) : (-x).isFinite = true := by
  have hx := storable_unpack h
  apply isFinite_pack (u := UnpackedFloat.neg x.toModel.unpack)
  generalize x.toModel.unpack = u at hx
  cases hx with
  | zero s => exact .zero _
  | finite he => exact .finite he

theorem mantissa_shiftRight_le (em : ExtendedMantissa) (k : Nat) :
    (em >>> k).mantissa ≤ em.mantissa := by
  induction k with
  | zero => exact Nat.le_refl _
  | succ k ih =>
    change (em >>> k).mantissa / 2 ≤ em.mantissa
    omega

theorem roundedMantissa_le (em : ExtendedMantissa) : em.roundedMantissa ≤ em.mantissa + 1 := by
  unfold ExtendedMantissa.roundedMantissa Accuracy.roundToNearestEven
  split <;> omega

theorem mantissa_shiftToTargetExponent_le (m : Nat) (e : Int) :
    (shiftToTargetExponent .binary64 m e .exact).1.mantissa ≤ m :=
  mantissa_shiftRight_le ⟨m, false, false⟩ _

theorem exponent_shiftToTargetExponent_le {m bits : Nat} {e top : Int} (hm : m < 2 ^ bits)
    (htop : bits + e ≤ top + 53) (he : e ≤ top) (hlow : -1074 ≤ top) :
    (shiftToTargetExponent .binary64 m e .exact).2 ≤ top := by
  have hlog : m.log2 + 1 ≤ bits ∨ m = 0 := by
    by_cases hzero : m = 0
    · exact .inr hzero
    · exact .inl ((Nat.log2_lt hzero).mpr hm)
  have htarget : Format.binary64.targetExponent (totalExponent m e) =
      max (m.log2 + 1 + e - 53) (-1074) := rfl
  simp only [shiftToTargetExponent, shiftToExponent, htarget]
  rcases hlog with hlog | rfl
  · omega
  · simp only [Nat.log2_zero]
    omega

theorem storable_roundWithAccuracy {m : Nat} {e : Int} (hm : m < 2 ^ 120) (he : e ≤ 0) (s : Sign) :
    Storable (roundWithAccuracy .binary64 s m e .exact) := by
  simp only [roundWithAccuracy]
  split
  · exact .zero _
  · have hfirst : (shiftToTargetExponent .binary64 m e .exact).2 ≤ 67 :=
      exponent_shiftToTargetExponent_le hm (by omega) (by omega) (by omega)
    have hless := mantissa_shiftToTargetExponent_le m e
    have hrounded := roundedMantissa_le (shiftToTargetExponent .binary64 m e .exact).1
    -- rounding up may lengthen the mantissa by one bit
    have hlength : (shiftToTargetExponent .binary64 m e .exact).1.roundedMantissa < 2 ^ 121 := by
      omega
    exact .finite <| exponent_shiftToTargetExponent_le hlength (by omega) (by omega) (by omega)

theorem storable_mul {s t : Sign} {m k : Nat} {e f : Int} {hm : 0 < m} {hk : 0 < k}
    (h : m * k < 2 ^ 120) (he : e + f ≤ 0) :
    Storable (UnpackedFloat.mul .binary64 (.finite s m e hm) (.finite t k f hk)) :=
  storable_roundWithAccuracy h he _

theorem storable_ofNat {n : Nat} (h : n < 2 ^ 64) : Storable (UnpackedFloat.ofNat .binary64 n) := by
  unfold UnpackedFloat.ofNat UnpackedFloat.ofInt UnpackedFloat.normalize
  split
  · rename_i hneg
    rw [Int.compare_eq_lt] at hneg
    omega
  · exact .zero _
  · have htarget : Format.binary64.targetExponent (totalExponent n 0) =
        max ((n.log2 : Int) + 1 + 0 - 53) (-1074) := rfl
    have hshift : (0 - Format.binary64.targetExponent (totalExponent n 0)).toNat ≤ 53 := by
      rw [htarget]
      omega
    apply storable_roundWithAccuracy
    · simp only [Int.toNat_natCast, Nat.shiftLeft_eq]
      calc n * 2 ^ (0 - Format.binary64.targetExponent (totalExponent n 0)).toNat
          ≤ n * 2 ^ 53 := Nat.mul_le_mul_left n (Nat.pow_le_pow_right (by decide) hshift)
        _ < 2 ^ 120 := by omega
    · omega

theorem isFinite_toFloat (w : UInt64) : w.toFloat.isFinite = true := by
  apply isFinite_pack
  exact storable_ofNat w.toNat_lt

theorem mul_comm (x y : Float) : x * y = y * x := by
  have hsign : ∀ s t : Sign, s * t = t * s := by
    intro s t
    cases s <;> cases t <;> rfl
  change Float.ofModel (Float.Model.pack (UnpackedFloat.mul .binary64 _ _)) =
    Float.ofModel (Float.Model.pack (UnpackedFloat.mul .binary64 _ _))
  congr 2
  cases x.toModel.unpack <;> cases y.toModel.unpack <;>
    simp only [UnpackedFloat.mul, Nat.mul_comm, Int.add_comm, hsign]

theorem mul_one (x : Float) : x * 1.0 = x := (mul_comm x 1.0).trans (one_mul x)

theorem isFinite_ofScientific {n : Nat} (h : n < 2 ^ 64) :
    (Float.ofScientific n false 0).isFinite = true := by
  have hpower : Float.exactlyRepresentablePowersOfTen[0] = 1.0 := rfl
  simp only [Float.ofScientific]
  split
  · simp only [Bool.false_eq_true, ite_false, hpower, mul_one]
    exact isFinite_toFloat _
  · apply isFinite_pack
    simp only [UnpackedFloat.ofScientific, Bool.false_eq_true, ite_false]
    split
    · exact .zero _
    · rw [if_neg (by decide), if_neg (by simp), if_pos (by decide)]
      apply storable_mul
      · rw [Nat.shiftLeft_eq]
        change n * 2 ^ 53 * 1 < 2 ^ 120
        omega
      · decide

theorem isFinite_doubleOfInt {n : Int} (h : n.natAbs < 2 ^ 64) :
    (Codec.doubleOfInt n).isFinite = true := by
  have hmagnitude : ∀ x : Float, x.isFinite = true →
      (if decide (n < 0) = true then -x else x).isFinite = true := by
    intro x hx
    split
    · exact isFinite_neg hx
    · exact hx
  have hlength : (digitsOf n.natAbs).length ≤ 20 :=
    Nat.toDigits_length 10 n.natAbs 20 (by decide) (Nat.lt_trans h (by decide))
  apply hmagnitude
  split
  · rfl
  · rw [if_neg (by change ¬ 310 < ((digitsOf n.natAbs).length : Int) + 0; omega)]
    exact isFinite_ofScientific h

end DemandRouting.Number
