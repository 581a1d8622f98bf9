import DemandRouting.Number.Power
import DemandRouting.Proofs.Number.Order

namespace DemandRouting.Number

open Float.Model Float.Model.UnpackedFloat

theorem unpack_zero : (0.0 : Float).toModel.unpack = .zero .positive := by rfl

-- Zero or above it, infinity included.
def IsNonneg : UnpackedFloat → Prop
  | .notANumber => False
  | .zero _ => True
  | .infinity s => s = .positive
  | .finite s _ _ _ => s = .positive

-- The sign of a zero does not count.
theorem zero_le_unpacked_iff (s : Sign) (u : UnpackedFloat) :
    UnpackedFloat.le (.zero s) u = true ↔ IsNonneg u := by
  cases u with
  | notANumber => simp [UnpackedFloat.le, UnpackedFloat.compare, IsNonneg]
  | zero t => simp [UnpackedFloat.le, UnpackedFloat.compare, IsNonneg]
  | infinity t => cases t <;> simp [UnpackedFloat.le, UnpackedFloat.compare, IsNonneg]
  | finite t => cases t <;> simp [UnpackedFloat.le, UnpackedFloat.compare, IsNonneg]

theorem zero_le_iff (x : Float) : 0.0 ≤ x ↔ IsNonneg x.toModel.unpack := by
  rw [le_iff, unpack_zero, zero_le_unpacked_iff]

-- Every number but NaN is either at zero or below, or above it.
theorem zero_lt_iff {x : Float} (h : x.isNaN = false) : 0.0 < x ↔ ¬ x ≤ 0.0 :=
  (not_le_iff h rfl).symm

-- Zero of either sign.
def IsZero (x : Float) : Prop := ∃ s, x.toModel.unpack = .zero s

theorem isZero_zero : IsZero 0.0 := ⟨_, unpack_zero⟩

theorem isZero_of_beq {x : Float} (h : (x == 0.0) = true) : IsZero x := by
  change UnpackedFloat.beq x.toModel.unpack (0.0 : Float).toModel.unpack = true at h
  rw [unpack_zero] at h
  obtain ⟨-, -, hx | ⟨hx, -⟩ | ⟨hx, -⟩⟩ :=
    (UnpackedFloat.beq_iff_ne_notANumber_and_eq _ _).mp h
  · exact ⟨_, hx⟩
  · exact ⟨_, hx⟩
  · exact ⟨_, hx⟩

theorem beq_of_le {x y : Float} (hle : x ≤ y) (hlt : ¬ x < y) : (x == y) = true := by
  rw [le_iff, UnpackedFloat.le] at hle
  rw [lt_iff, UnpackedFloat.lt] at hlt
  change UnpackedFloat.beq x.toModel.unpack y.toModel.unpack = true
  rw [UnpackedFloat.beq]
  cases hcompare : UnpackedFloat.compare x.toModel.unpack y.toModel.unpack with
  | none =>
    rw [hcompare] at hle
    cases hle
  | some order =>
    rw [hcompare] at hle hlt
    cases order with
    | lt => exact absurd rfl hlt
    | eq => rfl
    | gt => cases hle

theorem le_of_isZero {x y : Float} (hx : IsZero x) (hy : 0.0 ≤ y) : x ≤ y := by
  obtain ⟨s, hs⟩ := hx
  rw [le_iff, hs, zero_le_unpacked_iff]
  exact (zero_le_iff y).mp hy

-- The exponent of infinity comes with no other mantissa, which would make it NaN.
theorem isNonneg_unpack_packComponents {e : BitVec 11} {m : BitVec 52}
    (h : e = -1#11 → m = 0#52) :
    IsNonneg (UnpackedFloat.unpack .binary64 (packComponents .binary64 .positive e m)) := by
  have hm : unpackMantissa (packComponents .binary64 .positive e m) = m :=
    unpackMantissa_packComponents
  have he : unpackExponent (packComponents .binary64 .positive e m) = e :=
    unpackExponent_packComponents
  have hs : Sign.ofBitVec (unpackSign (packComponents .binary64 .positive e m)) = .positive := by
    rw [unpackSign_packComponents, Sign.ofBitVec_toBitVec]
  unfold UnpackedFloat.unpack
  simp only [hs]
  split
  · rename_i htop
    rw [if_pos (hm.trans (h (he.symm.trans htop)))]
    rfl
  · split
    · split <;> trivial
    · trivial

theorem isNonneg_unpack_pack {u : UnpackedFloat} (h : IsNonneg u) :
    IsNonneg (Float.Model.pack u).unpack := by
  change IsNonneg (UnpackedFloat.unpack .binary64 (UnpackedFloat.pack .binary64 u))
  cases u with
  | notANumber => exact h.elim
  | zero s => cases s <;> exact trivial
  | infinity s =>
    obtain rfl : s = .positive := h
    exact isNonneg_unpack_packComponents fun _ => rfl
  | finite s m e hm =>
    obtain rfl : s = .positive := h
    simp only [UnpackedFloat.pack]
    generalize (e + Format.binary64.exponentBias +
      Format.binary64.mantissaBitsWithoutImplicit).toNat = biased
    split
    · exact isNonneg_unpack_packComponents fun _ => rfl
    · rename_i hlarge
      split
      · apply isNonneg_unpack_packComponents
        intro htop
        have hbiased := congrArg BitVec.toNat htop
        change biased % 2 ^ 11 = 2047 at hbiased
        change ¬ 2048 ≤ biased + 1 at hlarge
        omega
      · apply isNonneg_unpack_packComponents
        intro htop
        cases htop

theorem isNonneg_roundWithAccuracy (mantissa : Nat) (exponent : Int) (accuracy : Accuracy) :
    IsNonneg (roundWithAccuracy .binary64 .positive mantissa exponent accuracy) := by
  simp only [roundWithAccuracy]
  split
  · trivial
  · rfl

theorem isNonneg_normalize {mantissa : Int} (h : 0 ≤ mantissa) (exponent : Int) :
    IsNonneg (UnpackedFloat.normalize .binary64 mantissa exponent .positive) := by
  unfold UnpackedFloat.normalize
  split
  · rename_i hlt
    rw [Int.compare_eq_lt] at hlt
    omega
  · trivial
  · exact isNonneg_roundWithAccuracy _ _ _

theorem zero_le_toFloat (w : UInt64) : 0.0 ≤ w.toFloat := by
  rw [zero_le_iff]
  exact isNonneg_unpack_pack (isNonneg_normalize (Int.natCast_nonneg _) _)

-- The other factor is finite because infinity times zero is NaN.
theorem zero_le_mul {x y : Float} (hx : 0.0 ≤ x) {m : Nat} {e : Int} {hm : 0 < m}
    (hy : y.toModel.unpack = .finite .positive m e hm) : 0.0 ≤ x * y := by
  rw [zero_le_iff] at hx ⊢
  apply isNonneg_unpack_pack
  rw [hy]
  cases hu : x.toModel.unpack with
  | notANumber => rw [hu] at hx; exact hx.elim
  | zero s => trivial
  | infinity s =>
    rw [hu] at hx
    obtain rfl : s = .positive := hx
    rfl
  | finite s =>
    rw [hu] at hx
    obtain rfl : s = .positive := hx
    exact isNonneg_roundWithAccuracy _ _ _

theorem isNonneg_mul {u v : UnpackedFloat} (hu : IsNonneg u) (hv : IsNonneg v)
    (hfu : u.isFinite = true) (hfv : v.isFinite = true) :
    IsNonneg (UnpackedFloat.mul .binary64 u v) := by
  cases u with
  | notANumber => cases hfu
  | infinity s => cases hfu
  | zero s =>
    cases v with
    | notANumber => cases hfv
    | infinity t => cases hfv
    | _ => trivial
  | finite s m e hm =>
    obtain rfl : s = .positive := hu
    cases v with
    | notANumber => cases hfv
    | infinity t => cases hfv
    | zero t => trivial
    | finite t m' e' hm' =>
      obtain rfl : t = .positive := hv
      exact isNonneg_roundWithAccuracy _ _ _

theorem zero_le_mul_of_isFinite {x y : Float} (hx : 0.0 ≤ x) (hy : 0.0 ≤ y)
    (hfx : x.isFinite = true) (hfy : y.isFinite = true) : 0.0 ≤ x * y := by
  rw [zero_le_iff] at hx hy ⊢
  exact isNonneg_unpack_pack (isNonneg_mul hx hy hfx hfy)

theorem pack_unpack_self (x : Float) : Float.Model.pack x.toModel.unpack = x.toModel := by
  have hbits : UnpackedFloat.pack .binary64 x.toModel.unpack = x.toModel.toBits.toBitVec :=
    pack_unpack_of_valid x.toModel.valid
  unfold Float.Model.pack
  simp only [hbits]

theorem eq_of_unpack {x y : Float} (h : x.toModel.unpack = y.toModel.unpack) : x = y := by
  have hmodel : x.toModel = y.toModel := by
    rw [← pack_unpack_self x, ← pack_unpack_self y, h]
  exact congrArg Float.ofModel hmodel

theorem add_eq_of_unpack {x y z : Float}
    (h : UnpackedFloat.add .binary64 x.toModel.unpack y.toModel.unpack = z.toModel.unpack) :
    x + y = z := by
  change Float.ofModel (Float.Model.pack (UnpackedFloat.add .binary64 _ _)) = z
  rw [h, pack_unpack_self]

theorem isZero_add {x y : Float} (hx : IsZero x) (hy : IsZero y) : IsZero (x + y) := by
  obtain ⟨s, hs⟩ := hx
  obtain ⟨t, ht⟩ := hy
  obtain ⟨u, hu⟩ : ∃ u,
      UnpackedFloat.add .binary64 x.toModel.unpack y.toModel.unpack = .zero u := by
    rw [hs, ht]
    cases s <;> cases t <;> exact ⟨_, rfl⟩
  refine ⟨u, ?_⟩
  change UnpackedFloat.unpack .binary64 (UnpackedFloat.pack .binary64
    (UnpackedFloat.add .binary64 _ _)) = _
  rw [hu]
  exact unpack_packedZero

theorem zero_add_eq {x y : Float} (hx : IsZero x) (hy : ¬ IsZero y) : x + y = y := by
  obtain ⟨s, hs⟩ := hx
  apply add_eq_of_unpack
  rw [hs]
  cases hu : y.toModel.unpack with
  | zero t => exact absurd ⟨t, hu⟩ hy
  | _ => rfl

theorem add_zero_eq {x y : Float} (hx : ¬ IsZero x) (hy : IsZero y) : x + y = x := by
  obtain ⟨t, ht⟩ := hy
  apply add_eq_of_unpack
  rw [ht]
  cases hu : x.toModel.unpack with
  | zero s => exact absurd ⟨s, hu⟩ hx
  | _ => rfl

theorem add_zeros_le_zero {x y : Float} (hx : IsZero x) (hy : IsZero y) : x + y ≤ 0.0 :=
  le_of_isZero (isZero_add hx hy) (by decide)

theorem add_zero_le_zero_iff (x : Float) : x + 0.0 ≤ 0.0 ↔ x ≤ 0.0 := by
  by_cases hx : IsZero x
  · exact iff_of_true (add_zeros_le_zero hx isZero_zero) (le_of_isZero hx (by decide))
  · rw [add_zero_eq hx isZero_zero]

theorem zero_add_le_zero_iff (x : Float) : 0.0 + x ≤ 0.0 ↔ x ≤ 0.0 := by
  by_cases hx : IsZero x
  · exact iff_of_true (add_zeros_le_zero isZero_zero hx) (le_of_isZero hx (by decide))
  · rw [zero_add_eq isZero_zero hx]

theorem isNonneg_add {u v : UnpackedFloat} (hu : IsNonneg u) (hv : IsNonneg v) :
    IsNonneg (UnpackedFloat.add .binary64 u v) := by
  cases u with
  | notANumber => exact hu.elim
  | zero s =>
    cases v with
    | zero t => cases s <;> cases t <;> trivial
    | _ => exact hv
  | infinity s =>
    obtain rfl : s = .positive := hu
    cases v with
    | infinity t =>
      obtain rfl : t = .positive := hv
      rfl
    | notANumber => exact hv
    | _ => rfl
  | finite s m e hm =>
    obtain rfl : s = .positive := hu
    cases v with
    | finite t m' e' hm' =>
      obtain rfl : t = .positive := hv
      exact isNonneg_normalize (Int.add_nonneg (Int.natCast_nonneg _) (Int.natCast_nonneg _)) _
    | zero t => rfl
    | _ => exact hv

theorem zero_le_add {x y : Float} (hx : 0.0 ≤ x) (hy : 0.0 ≤ y) : 0.0 ≤ x + y := by
  rw [zero_le_iff] at hx hy ⊢
  exact isNonneg_unpack_pack (isNonneg_add hx hy)

def infinity : Float := 1.0 / 0.0

theorem unpack_infinity : infinity.toModel.unpack = .infinity .positive := by rfl

theorem eq_infinity {x : Float} (hx : 0.0 ≤ x) (hinfinite : x.isFinite = false) : x = infinity := by
  rw [zero_le_iff] at hx
  change UnpackedFloat.isFinite x.toModel.unpack = false at hinfinite
  apply eq_of_unpack
  rw [unpack_infinity]
  generalize x.toModel.unpack = u at hx hinfinite
  cases u with
  | notANumber => exact hx.elim
  | infinity s =>
    obtain rfl : s = .positive := hx
    rfl
  | zero s => cases hinfinite
  | finite s m e hm => cases hinfinite

-- Nothing at zero or above brings infinity down.
theorem infinity_add {y : Float} (hy : 0.0 ≤ y) : infinity + y = infinity := by
  rw [zero_le_iff] at hy
  apply add_eq_of_unpack
  rw [unpack_infinity]
  generalize y.toModel.unpack = v at hy
  cases v with
  | notANumber => exact hy.elim
  | infinity t =>
    obtain rfl : t = .positive := hy
    rfl
  | _ => rfl

theorem add_infinity {x : Float} (hx : 0.0 ≤ x) : x + infinity = infinity := by
  rw [zero_le_iff] at hx
  apply add_eq_of_unpack
  rw [unpack_infinity]
  generalize x.toModel.unpack = u at hx
  cases u with
  | notANumber => exact hx.elim
  | infinity s =>
    obtain rfl : s = .positive := hx
    rfl
  | _ => rfl

end DemandRouting.Number
