import DemandRouting.Number.Power
import DemandRouting.Proofs.Number.Finite

namespace DemandRouting.Number

open Float.Model Float.Model.UnpackedFloat

-- The steps up from zero, below it as a negative number.
def steps : UnpackedFloat → Int
  | .notANumber => 0
  | .zero _ => 0
  | .infinity s => s.apply (2047 * 2 ^ 52)
  | .finite s m e _ => s.apply ((e + 1074) * 2 ^ 52 + m)

theorem toNat_unpackMantissa (bits : BitVec 64) :
    (@unpackMantissa .binary64 bits).toNat = bits.toNat % 2 ^ 52 := by
  simp [unpackMantissa]

theorem toNat_unpackExponent (bits : BitVec 64) :
    (@unpackExponent .binary64 bits).toNat = bits.toNat / 2 ^ 52 % 2 ^ 11 := by
  simp [unpackExponent, Nat.shiftRight_eq_div_pow]

theorem toNat_unpackSign (bits : BitVec 64) :
    (@unpackSign .binary64 bits).toNat = bits.toNat / 2 ^ 63 := by
  have hbits := bits.isLt
  simp only [unpackSign, BitVec.toNat_cast, BitVec.extractLsb_toNat, Nat.shiftRight_eq_div_pow]
  omega

theorem ofBitVec_unpackSign (bits : BitVec 64) :
    Sign.ofBitVec (@unpackSign .binary64 bits) =
      if 2 ^ 63 ≤ bits.toNat then .negative else .positive := by
  have hsign := toNat_unpackSign bits
  unfold Sign.ofBitVec
  by_cases hnegative : 2 ^ 63 ≤ bits.toNat
  · rw [if_pos hnegative, if_neg]
    intro hzero
    rw [hzero] at hsign
    change 0 = bits.toNat / 2 ^ 63 at hsign
    omega
  · rw [if_neg hnegative, if_pos]
    apply BitVec.eq_of_toNat_eq
    rw [hsign]
    change bits.toNat / 2 ^ 63 = 0
    omega

-- The exponent stands in front of the mantissa, so that a word without its sign counts the steps to
-- its number.
theorem steps_unpack {bits : BitVec 64} (h : UnpackedFloat.unpack .binary64 bits ≠ .notANumber) :
    steps (UnpackedFloat.unpack .binary64 bits) =
      (Sign.ofBitVec (@unpackSign .binary64 bits)).apply (bits.toNat % 2 ^ 63 : Nat) := by
  have hmantissa := toNat_unpackMantissa bits
  have hexponent := toNat_unpackExponent bits
  have hword : bits.toNat % 2 ^ 63 =
      bits.toNat / 2 ^ 52 % 2 ^ 11 * 2 ^ 52 + bits.toNat % 2 ^ 52 := by omega
  rw [hword, ← hmantissa, ← hexponent]
  unfold UnpackedFloat.unpack at h ⊢
  simp only at h ⊢
  generalize Sign.ofBitVec (@unpackSign .binary64 bits) = s at h ⊢
  by_cases htop : @unpackExponent .binary64 bits = -1#11
  · rw [if_pos htop] at h ⊢
    by_cases hzero : @unpackMantissa .binary64 bits = 0#52
    · rw [if_pos hzero, htop, hzero]
      rfl
    · rw [if_neg hzero] at h
      exact absurd rfl h
  rw [if_neg htop]
  by_cases hsubnormal : @unpackExponent .binary64 bits = 0#11
  · rw [if_pos hsubnormal]
    by_cases hzero : @unpackMantissa .binary64 bits = 0#52
    · have hnone : (0#11).toNat * 2 ^ 52 + (0#52).toNat = 0 := rfl
      rw [dif_pos hzero, hsubnormal, hzero, hnone]
      cases s <;> rfl
    · rw [dif_neg hzero, hsubnormal]
      apply congrArg s.apply
      change ((0 : Int) - (1023 + 52) + 1 + 1074) * 2 ^ 52 + _ =
        ((0 * 2 ^ 52 + (@unpackMantissa .binary64 bits).toNat : Nat) : Int)
      omega
  · rw [if_neg hsubnormal]
    apply congrArg s.apply
    rw [toNat_withLeadingBit]
    change (_ - (1023 + 52 : Int) + 1074) * 2 ^ 52 + _ = _
    push_cast
    omega

theorem signBit_eq_true_iff (x : Float) : signBit x = true ↔ 2 ^ 63 ≤ x.toBits.toNat := by
  rw [signBit, decide_eq_true_eq]

theorem steps_eq {x : Float} (h : x.isNaN = false) :
    steps x.toModel.unpack =
      if signBit x then -((x.toBits.toNat % 2 ^ 63 : Nat) : Int)
      else (x.toBits.toNat % 2 ^ 63 : Nat) := by
  have hsteps : steps x.toModel.unpack =
      (Sign.ofBitVec (@unpackSign .binary64 x.toModel.toBits.toBitVec)).apply
        (x.toBits.toNat % 2 ^ 63 : Nat) := steps_unpack (isNaN_eq_false_iff.mp h)
  have hsign : Sign.ofBitVec (@unpackSign .binary64 x.toModel.toBits.toBitVec) =
      if 2 ^ 63 ≤ x.toBits.toNat then .negative else .positive := ofBitVec_unpackSign _
  rw [hsteps, hsign, ite_cond_congr (propext (signBit_eq_true_iff x))]
  split <;> rfl

-- Below zero every double has a place one lower, so that the negative zero stands before the other.
theorem rank_eq_steps {x : Float} (h : x.isNaN = false) :
    rank x = if signBit x then steps x.toModel.unpack - 1 else steps x.toModel.unpack := by
  have hword := x.toBits.toNat_lt
  have hsign := signBit_eq_true_iff x
  rw [steps_eq h]
  cases hbit : signBit x with
  | true =>
    have hnegative : ¬ x.toBits.toNat < 2 ^ 63 := Nat.not_lt.mpr (hsign.mp hbit)
    simp only [rank, if_neg hnegative, ite_true]
    omega
  | false =>
    have hpositive : x.toBits.toNat < 2 ^ 63 := by
      rw [hbit] at hsign
      simpa using hsign
    simp only [rank, if_pos hpositive, Bool.false_eq_true, ite_false]
    omega

-- A mantissa and an exponent as a word can hold them.
structure Stored (m : Nat) (e : Int) : Prop where
  positive : 0 < m
  below : m < 2 ^ 53
  low : -1074 ≤ e
  high : e ≤ 971
  leading : e = -1074 ∨ 2 ^ 52 ≤ m

theorem stored_of_unpack {x : Float} {s : Sign} {m : Nat} {e : Int} {hm : 0 < m}
    (h : x.toModel.unpack = .finite s m e hm) : Stored m e := by
  have hcanonical := canonical_iff.mp (canonical_of_unpack h)
  have hfinite : UnpackedFloat.isFinite x.toModel.unpack = true := by
    rw [h]
    rfl
  have hstorable := storable_unpack hfinite
  rw [h] at hstorable
  cases hstorable with
  | finite hhigh =>
    have hbelow := (Nat.log2_lt (n := m) (k := 53) hm.ne').mp (by omega)
    have hleading := Nat.le_log2 (n := m) (k := 52) hm.ne'
    exact ⟨hm, hbelow, by omega, hhigh, by omega⟩

-- What a greater exponent adds is more than any mantissa makes up for.
theorem Stored.compare_eq {m₁ m₂ : Nat} {e₁ e₂ : Int} (h₁ : Stored m₁ e₁) (h₂ : Stored m₂ e₂) :
    (compare e₁ e₂).then (compare m₁ m₂) =
      compare ((e₁ + 1074) * 2 ^ 52 + m₁) ((e₂ + 1074) * 2 ^ 52 + m₂) := by
  obtain ⟨-, hbelow₁, hlow₁, -, hleading₁⟩ := h₁
  obtain ⟨-, hbelow₂, hlow₂, -, hleading₂⟩ := h₂
  rcases Int.lt_trichotomy e₁ e₂ with hlt | rfl | hgt
  · rw [Int.compare_eq_lt.mpr hlt, Int.compare_eq_lt.mpr (by omega)]
    rfl
  · rw [Int.compare_eq_eq.mpr rfl]
    rcases Nat.lt_trichotomy m₁ m₂ with hlt | rfl | hgt
    · rw [Nat.compare_eq_lt.mpr hlt, Int.compare_eq_lt.mpr (by omega)]
      rfl
    · rw [Nat.compare_eq_eq.mpr rfl, Int.compare_eq_eq.mpr rfl]
      rfl
    · rw [Nat.compare_eq_gt.mpr hgt, Int.compare_eq_gt.mpr (by omega)]
      rfl
  · rw [Int.compare_eq_gt.mpr hgt, Int.compare_eq_gt.mpr (by omega)]
    rfl

-- The two compare as their steps do.
def ComparesBySteps (u v : UnpackedFloat) : Prop :=
  UnpackedFloat.compare u v = some (compare (steps u) (steps v))

theorem ComparesBySteps.swap {u v : UnpackedFloat} (h : ComparesBySteps u v) :
    ComparesBySteps v u := by
  rw [ComparesBySteps, compare_swap, h, Option.map_some, Int.compare_swap]

theorem Stored.zero_compares {m : Nat} {e : Int} (h : Stored m e) (hm : 0 < m) (t s : Sign) :
    ComparesBySteps (.zero t) (.finite s m e hm) := by
  have hlow := h.low
  cases s with
  | negative =>
    have hgt : -((e + 1074) * 2 ^ 52 + m) < 0 := by omega
    exact congrArg some (Int.compare_eq_gt.mpr hgt).symm
  | positive =>
    have hlt : 0 < (e + 1074) * 2 ^ 52 + m := by omega
    exact congrArg some (Int.compare_eq_lt.mpr hlt).symm

theorem Stored.infinity_compares {m : Nat} {e : Int} (h : Stored m e) (hm : 0 < m) (t s : Sign) :
    ComparesBySteps (.infinity t) (.finite s m e hm) := by
  obtain ⟨-, hbelow, hlow, hhigh, -⟩ := h
  have hrange : -(2047 * 2 ^ 52) < s.apply ((e + 1074) * 2 ^ 52 + m) ∧
      s.apply ((e + 1074) * 2 ^ 52 + m) < 2047 * 2 ^ 52 := by
    cases s <;> simp only [Sign.apply] <;> omega
  cases t with
  | negative => exact congrArg some (Int.compare_eq_lt.mpr hrange.1).symm
  | positive => exact congrArg some (Int.compare_eq_gt.mpr hrange.2).symm

theorem compare_neg_neg (a b : Int) : compare (-a) (-b) = (compare a b).swap := by
  rcases Int.lt_trichotomy a b with hlt | rfl | hgt
  · rw [Int.compare_eq_lt.mpr hlt, Int.compare_eq_gt.mpr (by omega)]
    rfl
  · rw [Int.compare_eq_eq.mpr rfl, Int.compare_eq_eq.mpr rfl]
    rfl
  · rw [Int.compare_eq_gt.mpr hgt, Int.compare_eq_lt.mpr (by omega)]
    rfl

theorem Stored.compares {m₁ m₂ : Nat} {e₁ e₂ : Int} (h₁ : Stored m₁ e₁) (h₂ : Stored m₂ e₂)
    (hm₁ : 0 < m₁) (hm₂ : 0 < m₂) (s t : Sign) :
    ComparesBySteps (.finite s m₁ e₁ hm₁) (.finite t m₂ e₂ hm₂) := by
  have hsame := h₁.compare_eq h₂
  have hlow₁ := h₁.low
  have hlow₂ := h₂.low
  -- on different sides of zero the sign decides, on the same side the magnitude
  have hapart : -((e₁ + 1074) * 2 ^ 52 + m₁) < (e₂ + 1074) * 2 ^ 52 + m₂ := by omega
  have hapart' : -((e₂ + 1074) * 2 ^ 52 + m₂) < (e₁ + 1074) * 2 ^ 52 + m₁ := by omega
  cases s with
  | negative =>
    cases t with
    | negative =>
      rw [ComparesBySteps, steps, steps, Sign.apply, Sign.apply, compare_neg_neg, ← hsame]
      rfl
    | positive => exact congrArg some (Int.compare_eq_lt.mpr hapart).symm
  | positive =>
    cases t with
    | negative => exact congrArg some (Int.compare_eq_gt.mpr hapart').symm
    | positive =>
      rw [ComparesBySteps, steps, steps, Sign.apply, Sign.apply, ← hsame]
      rfl

theorem compare_eq_steps {x y : Float} (hx : x.isNaN = false) (hy : y.isNaN = false) :
    ComparesBySteps x.toModel.unpack y.toModel.unpack := by
  rw [isNaN_eq_false_iff] at hx hy
  cases hu : x.toModel.unpack with
  | notANumber => exact absurd hu hx
  | infinity s =>
    cases hv : y.toModel.unpack with
    | notANumber => exact absurd hv hy
    | infinity t => cases s <;> cases t <;> rfl
    | zero t => cases s <;> rfl
    | finite t m e hm => exact (stored_of_unpack hv).infinity_compares hm s t
  | zero s =>
    cases hv : y.toModel.unpack with
    | notANumber => exact absurd hv hy
    | infinity t => cases t <;> rfl
    | zero t => rfl
    | finite t m e hm => exact (stored_of_unpack hv).zero_compares hm s t
  | finite s m e hm =>
    have hstored := stored_of_unpack hu
    cases hv : y.toModel.unpack with
    | notANumber => exact absurd hv hy
    | infinity t => exact (hstored.infinity_compares hm t s).swap
    | zero t => exact (hstored.zero_compares hm t s).swap
    | finite t m' e' hm' => exact hstored.compares (stored_of_unpack hv) hm hm' s t

theorem lt_iff_steps {x y : Float} (hx : x.isNaN = false) (hy : y.isNaN = false) :
    x < y ↔ steps x.toModel.unpack < steps y.toModel.unpack := by
  have hcompare : UnpackedFloat.compare x.toModel.unpack y.toModel.unpack = _ :=
    compare_eq_steps hx hy
  rw [lt_iff, UnpackedFloat.lt, hcompare, beq_iff_eq, Option.some_inj, Int.compare_eq_lt]

theorem isNaN_of_lt {x y : Float} (h : x < y) : x.isNaN = false ∧ y.isNaN = false := by
  rw [isNaN_eq_false_iff, isNaN_eq_false_iff, ← not_or, ← compare_eq_none_iff]
  intro hnone
  rw [lt_iff, UnpackedFloat.lt, hnone] at h
  cases h

theorem rank_lt_of_lt {x y : Float} (h : x < y) : rank x < rank y := by
  obtain ⟨hx, hy⟩ := isNaN_of_lt h
  have hsteps := (lt_iff_steps hx hy).mp h
  have hxsteps := steps_eq hx
  have hysteps := steps_eq hy
  rw [rank_eq_steps hx, rank_eq_steps hy]
  -- a number that is less is not the one at zero or above if the other is at zero or below
  cases hxsign : signBit x <;> cases hysign : signBit y <;>
    simp only [hxsign, hysign, ite_true, Bool.false_eq_true, ite_false] at hxsteps hysteps ⊢ <;>
    omega

-- What is not below a bound is not below it either where it ranks higher.
theorem not_lt_of_rank_le {x y bound : Float} (hx : x.isNaN = false) (hrank : rank x ≤ rank y)
    (h : ¬ x < bound) : ¬ y < bound := by
  intro hlt
  obtain ⟨hy, hbound⟩ := isNaN_of_lt hlt
  have hle : ¬ y < x := fun hlt => absurd (rank_lt_of_lt hlt) (Int.not_lt.mpr hrank)
  rw [lt_iff_steps hy hx] at hle
  rw [lt_iff_steps hy hbound] at hlt
  rw [lt_iff_steps hx hbound] at h
  omega

end DemandRouting.Number
