import DemandRouting.Proofs.Number.Rank

namespace DemandRouting.Number

open Float.Model Float.Model.UnpackedFloat

-- A mantissa of full length.
structure Full (m : Nat) : Prop where
  leading : 2 ^ 52 ≤ m
  below : m < 2 ^ 53

theorem Full.positive {m : Nat} (h : Full m) : 0 < m :=
  Nat.lt_of_lt_of_le (Nat.two_pow_pos 52) h.leading

theorem Full.log2_eq {m : Nat} (h : Full m) : m.log2 = 52 := by
  have hlow := (Nat.le_log2 h.positive.ne').mpr h.leading
  have hhigh := (Nat.log2_lt h.positive.ne').mpr h.below
  omega

theorem Full.canonical {m : Nat} {e : Int} (h : Full m) (he : -1074 ≤ e) : Canonical m e :=
  canonical_normal h.leading h.below he

theorem toNat_mantissaField {m : Nat} (h : Full m) : (1#1 ++ BitVec.ofNat 52 m).toNat = m := by
  have hleading := h.leading
  have hbelow := h.below
  rw [toNat_withLeadingBit, BitVec.toNat_ofNat]
  omega

-- Not the exponent of infinity, and not that of the numbers below full length either.
theorem exponentField_normal {e : Int} (hlow : -1074 ≤ e) (hhigh : e ≤ 971) :
    (BitVec.ofNat 11 (e + 1075).toNat).toNat = (e + 1075).toNat ∧
      BitVec.ofNat 11 (e + 1075).toNat ≠ -1#11 ∧ BitVec.ofNat 11 (e + 1075).toNat ≠ 0#11 := by
  have hfield : (BitVec.ofNat 11 (e + 1075).toNat).toNat = (e + 1075).toNat := by
    rw [BitVec.toNat_ofNat]
    omega
  refine ⟨hfield, fun htop => ?_, fun hzero => ?_⟩
  · rw [htop] at hfield
    change 2047 = _ at hfield
    omega
  · rw [hzero] at hfield
    change 0 = _ at hfield
    omega

-- The leading bit is left out of the word and put back.
theorem unpack_pack {m : Nat} {e : Int} (h : Full m) (hlow : -1074 ≤ e) (hhigh : e ≤ 971)
    (s : Sign) :
    (Float.Model.pack (.finite s m e h.positive)).unpack = .finite s m e h.positive := by
  change UnpackedFloat.unpack .binary64 (UnpackedFloat.pack .binary64 _) = _
  obtain ⟨hexponent, hinfinite, hsubnormal⟩ := exponentField_normal hlow hhigh
  have hbiased : (e + Format.binary64.exponentBias +
      Format.binary64.mantissaBitsWithoutImplicit).toNat = (e + 1075).toNat := by
    change (e + 1023 + 52).toNat = _
    omega
  have hlarge : ¬ 2 ^ Format.binary64.exponentBits ≤ (e + 1075).toNat + 1 := by
    change ¬ 2048 ≤ _
    omega
  have hnormal : m.log2 + 1 = Format.binary64.mantissaBits := by
    rw [h.log2_eq]
    rfl
  simp only [UnpackedFloat.pack, hbiased, if_neg hlarge, if_pos hnormal]
  unfold UnpackedFloat.unpack
  simp only [unpackMantissa_packComponents, unpackExponent_packComponents,
    unpackSign_packComponents, Sign.ofBitVec_toBitVec, if_neg hinfinite, if_neg hsubnormal,
    toNat_mantissaField h, hexponent]
  congr 1
  change _ - (1023 + 52 : Int) = e
  omega

-- What is left of a number after shifting it to the right: the quotient, and how the rest compares
-- with half a place.
structure Truncates (n k : Nat) (em : ExtendedMantissa) : Prop where
  split : ∃ rest, n = em.mantissa * 2 ^ k + rest ∧ rest < 2 ^ k ∧
    (em.roundBit = true ↔ 2 ^ k ≤ 2 * rest) ∧
    (em.stickyBit = true ↔ 2 * rest ≠ 0 ∧ 2 * rest ≠ 2 ^ k)

theorem Truncates.shiftRightOne {n k : Nat} {em : ExtendedMantissa} (h : Truncates n k em) :
    Truncates n (k + 1) em.shiftRightOne := by
  obtain ⟨rest, rfl, hrest, hround, hsticky⟩ := h.split
  have hhalf := Nat.div_add_mod em.mantissa 2
  have hbit := Nat.mod_two_eq_zero_or_one em.mantissa
  refine ⟨em.mantissa % 2 * 2 ^ k + rest, ?_, ?_, ?_, ?_⟩
  · change _ = em.mantissa / 2 * 2 ^ (k + 1) + _
    conv_lhs => rw [← hhalf]
    ring
  · rcases hbit with hbit | hbit <;> rw [hbit] <;> omega
  · change (em.mantissa % 2 != 0) = true ↔ _
    rw [bne_iff_ne]
    rcases hbit with hbit | hbit <;> rw [hbit] <;> omega
  · change (em.roundBit || em.stickyBit) = true ↔ _
    rw [Bool.or_eq_true, hround, hsticky]
    rcases hbit with hbit | hbit <;> rw [hbit] <;> omega

theorem truncates_shiftRight (n k : Nat) :
    Truncates n k ((⟨n, false, false⟩ : ExtendedMantissa) >>> k) := by
  induction k with
  | zero =>
    refine ⟨0, ?_, by decide, ?_, ?_⟩
    · change n = n * 2 ^ 0 + 0
      omega
    · change false = true ↔ _
      decide
    · change false = true ↔ _
      decide
  | succ k ih => exact ih.shiftRightOne

-- Half a place at most is lost, or gained.
theorem Truncates.rounded_near {n k : Nat} {em : ExtendedMantissa} (h : Truncates n k em) :
    2 * n ≤ 2 * (em.roundedMantissa * 2 ^ k) + 2 ^ k ∧
      2 * (em.roundedMantissa * 2 ^ k) ≤ 2 * n + 2 ^ k := by
  obtain ⟨rest, rfl, hrest, hround, hsticky⟩ := h.split
  obtain ⟨m, round, sticky⟩ := em
  have hsucc : (m + 1) * 2 ^ k = m * 2 ^ k + 2 ^ k := Nat.succ_mul _ _
  cases round <;> cases sticky <;>
    simp only [ExtendedMantissa.roundedMantissa, ExtendedMantissa.accuracy,
      Accuracy.roundToNearestEven, Bool.false_eq_true, false_iff, true_iff] at hround hsticky ⊢
  · omega
  · omega
  · rcases Nat.mod_two_eq_zero_or_one m with hbit | hbit <;>
      simp only [hbit, Nat.add_zero] <;> omega
  · omega

theorem roundedMantissa_between (em : ExtendedMantissa) :
    em.mantissa ≤ em.roundedMantissa ∧ em.roundedMantissa ≤ em.mantissa + 1 := by
  refine ⟨?_, roundedMantissa_le em⟩
  unfold ExtendedMantissa.roundedMantissa Accuracy.roundToNearestEven
  split <;> omega

theorem mantissa_shiftRight (em : ExtendedMantissa) (k : Nat) :
    (em >>> k).mantissa = em.mantissa / 2 ^ k := by
  induction k with
  | zero => exact (Nat.div_one _).symm
  | succ k ih =>
    change (em >>> k).mantissa / 2 = _
    rw [ih, Nat.div_div_eq_div_mul, ← pow_succ]

theorem mantissa_ofMantissaAndAccuracy (n : Nat) (a : Accuracy) :
    (ExtendedMantissa.ofMantissaAndAccuracy n a).mantissa = n := by
  cases a with
  | exact => rfl
  | inexact order => cases order <;> rfl

-- The first shift takes off what is too long, the second one what rounding up has added.
theorem shiftToTargetExponent_long {n k : Nat} {e : Int} (hlog : n.log2 = 52 + k)
    (he : -1074 ≤ e + k) (a : Accuracy) :
    shiftToTargetExponent .binary64 n e a =
      (ExtendedMantissa.ofMantissaAndAccuracy n a >>> k, e + k) := by
  have htarget : Format.binary64.targetExponent (totalExponent n e) =
      max (n.log2 + 1 + e - 53) (-1074) := rfl
  have hshift : (Format.binary64.targetExponent (totalExponent n e) - e).toNat = k := by
    rw [htarget, hlog]
    omega
  rw [shiftToTargetExponent, shiftToExponent, hshift]

theorem shiftToTargetExponent_full {m : Nat} {e : Int} (h : Full m) (he : -1074 ≤ e) :
    shiftToTargetExponent .binary64 m e .exact = (⟨m, false, false⟩, e) := by
  have hexact := shiftToTargetExponent_exact (h.canonical he) h.positive 0
  rwa [pow_zero, Nat.mul_one, Nat.cast_zero, Int.sub_zero] at hexact

theorem roundWithAccuracy_full {m : Nat} {e : Int} (h : Full m) (he : -1074 ≤ e) (s : Sign) :
    roundWithAccuracy .binary64 s m e .exact = .finite s m e h.positive := by
  have hexact := roundWithAccuracy_exact (h.canonical he) h.positive s 0
  rwa [pow_zero, Nat.mul_one, Nat.cast_zero, Int.sub_zero] at hexact

theorem full_two_pow : Full (2 ^ 52) := ⟨Nat.le_refl _, by decide⟩

theorem shiftToTargetExponent_carry {e : Int} (he : -1074 ≤ e) :
    shiftToTargetExponent .binary64 (2 ^ 53) e .exact = (⟨2 ^ 52, false, false⟩, e + 1) := by
  have hexact := shiftToTargetExponent_exact
    (full_two_pow.canonical (e := e + 1) (by omega)) full_two_pow.positive 1
  rwa [Nat.cast_one, Int.add_sub_cancel] at hexact

theorem full_div {n k : Nat} (hlog : n.log2 = 52 + k) : Full (n / 2 ^ k) := by
  have hn : n ≠ 0 := by
    rintro rfl
    rw [Nat.log2_zero] at hlog
    omega
  constructor
  · rw [Nat.le_div_iff_mul_le (Nat.two_pow_pos k), ← Nat.pow_add, ← hlog]
    exact Nat.log2_self_le hn
  · rw [Nat.div_lt_iff_lt_mul (Nat.two_pow_pos k), ← Nat.pow_add]
    exact (Nat.log2_lt hn).mp (by omega)

-- A mantissa with places to spare comes out at full length. Rounding up may take one place more,
-- and then nothing but the leading bit is left.
theorem roundWithAccuracy_long {n k : Nat} {e : Int} (hlog : n.log2 = 52 + k)
    (he : -1074 ≤ e + k) (s : Sign) (a : Accuracy) :
    ∃ (m j : Nat) (hm : Full m), (j = k ∨ j = k + 1 ∧ m = 2 ^ 52) ∧
      roundWithAccuracy .binary64 s n e a = .finite s m (e + j) hm.positive ∧
      m * 2 ^ j =
        (ExtendedMantissa.ofMantissaAndAccuracy n a >>> k).roundedMantissa * 2 ^ k := by
  have hfirst := shiftToTargetExponent_long hlog he a
  have hmantissa := mantissa_shiftRight (ExtendedMantissa.ofMantissaAndAccuracy n a) k
  rw [mantissa_ofMantissaAndAccuracy] at hmantissa
  generalize ExtendedMantissa.ofMantissaAndAccuracy n a >>> k = em at hfirst hmantissa ⊢
  obtain ⟨hless, hmore⟩ := roundedMantissa_between em
  obtain ⟨hleading, hbelow⟩ : Full em.mantissa := hmantissa ▸ full_div hlog
  by_cases hcarry : em.roundedMantissa = 2 ^ 53
  · have hsecond : shiftToTargetExponent .binary64 em.roundedMantissa (e + k) .exact =
        (⟨2 ^ 52, false, false⟩, e + (k + 1 : Nat)) := by
      rw [hcarry, shiftToTargetExponent_carry he, Nat.cast_succ, Int.add_assoc]
    have hplace : 2 ^ 52 * 2 ^ (k + 1) = em.roundedMantissa * 2 ^ k := by
      rw [hcarry]
      ring
    refine ⟨2 ^ 52, k + 1, full_two_pow, .inr ⟨rfl, rfl⟩, ?_, hplace⟩
    simp only [roundWithAccuracy, hfirst, hsecond, full_two_pow.positive.ne', dite_false]
  · have hfull : Full em.roundedMantissa := by constructor <;> omega
    refine ⟨em.roundedMantissa, k, hfull, .inl rfl, ?_, rfl⟩
    simp only [roundWithAccuracy, hfirst, shiftToTargetExponent_full hfull he,
      hfull.positive.ne', dite_false]

-- What is exact before is off by half of the last place that is kept at most.
theorem roundWithAccuracy_near {n k : Nat} {e : Int} (hlog : n.log2 = 52 + k)
    (he : -1074 ≤ e + k) (s : Sign) :
    ∃ (m j : Nat) (hm : Full m), (j = k ∨ j = k + 1) ∧
      roundWithAccuracy .binary64 s n e .exact = .finite s m (e + j) hm.positive ∧
      2 * n ≤ 2 * (m * 2 ^ j) + 2 ^ k ∧ 2 * (m * 2 ^ j) ≤ 2 * n + 2 ^ k := by
  obtain ⟨m, j, hm, hj, hround, hplace⟩ := roundWithAccuracy_long hlog he s .exact
  refine ⟨m, j, hm, hj.imp_right And.left, hround, ?_⟩
  rw [hplace]
  exact (truncates_shiftRight n k).rounded_near

-- A product of two mantissas of full length is 52 or 53 places too long.
theorem Full.log2_mul {a b : Nat} (ha : Full a) (hb : Full b) :
    ∃ k, (a * b).log2 = 52 + k ∧ 52 ≤ k ∧ k ≤ 53 := by
  have hne : a * b ≠ 0 := Nat.mul_ne_zero ha.positive.ne' hb.positive.ne'
  have hlow : 104 ≤ (a * b).log2 := by
    rw [Nat.le_log2 hne]
    calc 2 ^ 104 = 2 ^ 52 * 2 ^ 52 := rfl
      _ ≤ a * b := Nat.mul_le_mul ha.leading hb.leading
  have hhigh : (a * b).log2 < 106 := by
    rw [Nat.log2_lt hne]
    calc a * b < 2 ^ 53 * 2 ^ 53 := Nat.mul_lt_mul'' ha.below hb.below
      _ = 2 ^ 106 := rfl
  exact ⟨(a * b).log2 - 52, by omega, by omega, by omega⟩

theorem mul_near {x y : Float} {a b : Nat} {e f : Int} (ha : Full a) (hb : Full b)
    (hx : x.toModel.unpack = .finite .positive a e ha.positive)
    (hy : y.toModel.unpack = .finite .positive b f hb.positive)
    (hlow : -1126 ≤ e + f) (hhigh : e + f ≤ 917) :
    ∃ (m k j : Nat) (hm : Full m), k ≤ 53 ∧ (j = k ∨ j = k + 1) ∧
      (x * y).toModel.unpack = .finite .positive m (e + f + j) hm.positive ∧
      2 * (a * b) ≤ 2 * (m * 2 ^ j) + 2 ^ k ∧ 2 * (m * 2 ^ j) ≤ 2 * (a * b) + 2 ^ k := by
  obtain ⟨k, hlog, hleast, hmost⟩ := ha.log2_mul hb
  obtain ⟨m, j, hm, hj, hround, hnear⟩ :=
    roundWithAccuracy_near (e := e + f) hlog (by omega) .positive
  refine ⟨m, k, j, hm, hmost, hj, ?_, hnear⟩
  have hmul : UnpackedFloat.mul .binary64 x.toModel.unpack y.toModel.unpack =
      .finite .positive m (e + f + j) hm.positive := by
    rw [hx, hy]
    exact hround
  rw [unpack_mul, hmul]
  exact unpack_pack hm (by omega) (by omega) .positive

-- A number that is short of full length gets zeros first, and none if it is too long.
theorem ofNat_eq_round {n : Nat} (hn : 0 < n) :
    UnpackedFloat.ofNat .binary64 n = roundWithAccuracy .binary64 .positive
      (n * 2 ^ (52 - n.log2)) (-(52 - n.log2 : Nat)) .exact := by
  have htarget : Format.binary64.targetExponent (totalExponent n 0) =
      max ((n.log2 : Int) + 1 + 0 - 53) (-1074) := rfl
  have hshift : (0 - Format.binary64.targetExponent (totalExponent n 0)).toNat = 52 - n.log2 := by
    rw [htarget]
    omega
  have hcompare : compare (n : Int) 0 = .gt := Int.compare_eq_gt.mpr (by omega)
  simp only [UnpackedFloat.ofNat, UnpackedFloat.ofInt, UnpackedFloat.normalize, hcompare,
    UnpackedFloat.round, decreaseExponent, Int.toNat_natCast, hshift, Nat.shiftLeft_eq]
  rw [Int.zero_sub]

-- Whatever number of zeros makes it a mantissa of full length.
theorem unpack_toFloat {w : UInt64} {k : Nat} (h : Full (w.toNat * 2 ^ k)) :
    w.toFloat.toModel.unpack = .finite .positive (w.toNat * 2 ^ k) (-k) h.positive := by
  have hpos : 0 < w.toNat := Nat.pos_of_mul_pos_right h.positive
  have hlog : w.toNat.log2 + k = 52 := (log2_mul_two_pow hpos k).symm.trans h.log2_eq
  have hzeros : 52 - w.toNat.log2 = k := by omega
  change (Float.Model.pack (UnpackedFloat.ofNat .binary64 w.toNat)).unpack = _
  rw [ofNat_eq_round hpos, hzeros, roundWithAccuracy_full h (by omega) .positive]
  exact unpack_pack h (by omega) (by omega) .positive

-- A number that is longer is rounded.
theorem unpack_toFloat_long {w : UInt64} {k : Nat} (hlog : w.toNat.log2 = 52 + k) :
    ∃ (m j : Nat) (hm : Full m), (j = k ∨ j = k + 1) ∧
      w.toFloat.toModel.unpack = .finite .positive m j hm.positive ∧
      2 * w.toNat ≤ 2 * (m * 2 ^ j) + 2 ^ k ∧ 2 * (m * 2 ^ j) ≤ 2 * w.toNat + 2 ^ k := by
  have hpos : 0 < w.toNat := by
    rw [Nat.pos_iff_ne_zero]
    intro hzero
    rw [hzero, Nat.log2_zero] at hlog
    omega
  have hbits : w.toNat.log2 < 64 := (Nat.log2_lt hpos.ne').mpr w.toNat_lt
  have hzeros : 52 - w.toNat.log2 = 0 := by omega
  obtain ⟨m, j, hm, hj, hround, hnear⟩ :=
    roundWithAccuracy_near (e := 0) hlog (by omega) .positive
  have hofNat : UnpackedFloat.ofNat .binary64 w.toNat = .finite .positive m j hm.positive := by
    rw [ofNat_eq_round hpos, hzeros, pow_zero, Nat.mul_one, Nat.cast_zero, Int.neg_zero, hround]
    congr 1
    exact Int.zero_add _
  refine ⟨m, j, hm, hj, ?_, hnear⟩
  change (Float.Model.pack (UnpackedFloat.ofNat .binary64 w.toNat)).unpack = _
  rw [hofNat]
  exact unpack_pack hm (by omega) (by omega) .positive

theorem ofNat_eq_toFloat {n : Nat} (h : n < 2 ^ 53) : Float.ofNat n = n.toUInt64.toFloat := by
  have hpower : Float.exactlyRepresentablePowersOfTen[0] = 1.0 := rfl
  change Float.ofScientific n false 0 = _
  simp only [Float.ofScientific]
  rw [dif_pos ⟨h, by decide⟩]
  simp only [Bool.false_eq_true, ite_false, hpower, mul_one]

-- A number of at most so many bits is short of full length by the others at least.
theorem exists_full {n bits : Nat} (hpos : 0 < n) (h : n < 2 ^ bits) (hbits : bits ≤ 53) :
    ∃ k, 53 ≤ bits + k ∧ k ≤ 52 ∧ Full (n * 2 ^ k) := by
  have hlog := (Nat.log2_lt hpos.ne').mpr h
  have hsum : n.log2 + (52 - n.log2) = 52 := by omega
  refine ⟨52 - n.log2, by omega, by omega, ?_, ?_⟩
  · calc 2 ^ 52 = 2 ^ n.log2 * 2 ^ (52 - n.log2) := by rw [← Nat.pow_add, hsum]
      _ ≤ n * 2 ^ (52 - n.log2) := Nat.mul_le_mul_right _ (Nat.log2_self_le hpos.ne')
  · calc n * 2 ^ (52 - n.log2) < 2 ^ (n.log2 + 1) * 2 ^ (52 - n.log2) :=
          Nat.mul_lt_mul_of_pos_right Nat.lt_log2_self (Nat.two_pow_pos _)
      _ = 2 ^ 53 := by rw [← Nat.pow_add, Nat.add_right_comm, hsum]

theorem unpack_ofNat {n k : Nat} (h : n < 2 ^ 53) (hfull : Full (n * 2 ^ k)) :
    (Float.ofNat n).toModel.unpack = .finite .positive (n * 2 ^ k) (-k) hfull.positive := by
  have hword : n.toUInt64.toNat = n := UInt64.toNat_ofNat_of_lt' (Nat.lt_trans h (by decide))
  have hunpack := unpack_toFloat (w := n.toUInt64) (k := k) (hword.symm ▸ hfull)
  rw [ofNat_eq_toFloat h, hunpack]
  simp only [hword]

section Ceiling

variable {x : Float} {m d : Nat} (hm : Full m)
  (hx : x.toModel.unpack = .finite .positive m (-d) hm.positive)

include hx

theorem toNat_toUInt64 : x.toUInt64.toNat = m / 2 ^ d := by
  have hnone : (-(d : Int) - 0).toNat = 0 := by omega
  have hshift : (0 - (-(d : Int) - (0 : Nat))).toNat = d := by omega
  have hint : roundToInt .positive m (-d) = (m / 2 ^ d : Nat) := by
    simp only [roundToInt, decreaseExponent, shiftToExponent, hnone, Nat.shiftLeft_zero,
      ExtendedMantissa.ofMantissaAndAccuracy]
    rw [hshift, mantissa_shiftRight]
    rfl
  have hword : m / 2 ^ d < 2 ^ 64 :=
    Nat.lt_of_le_of_lt (Nat.div_le_self _ _) (Nat.lt_trans hm.below (by decide))
  change (UInt64.ofNatClamp (x.toModel.unpack.toInt 0 (UInt64.size - 1)).toNat).toNat = _
  rw [hx, UnpackedFloat.toInt, hint, Int.toNat_natCast, UInt64.ofNatClamp_eq_ofNat _ hword,
    UInt64.toNat_ofNat_of_lt' hword]

theorem toFloat_floor_lt_iff : x.toUInt64.toFloat < x ↔ x.toUInt64.toNat * 2 ^ d < m := by
  have hfloor := toNat_toUInt64 hm hx
  by_cases hd : d ≤ 52
  · have hfull : Full (x.toUInt64.toNat * 2 ^ d) := by
      rw [hfloor]
      constructor
      · have hleast : 2 ^ (52 - d) ≤ m / 2 ^ d := by
          rw [Nat.le_div_iff_mul_le (Nat.two_pow_pos d), ← Nat.pow_add, Nat.sub_add_cancel hd]
          exact hm.leading
        calc 2 ^ 52 = 2 ^ (52 - d) * 2 ^ d := by rw [← Nat.pow_add, Nat.sub_add_cancel hd]
          _ ≤ m / 2 ^ d * 2 ^ d := Nat.mul_le_mul_right _ hleast
      · exact Nat.lt_of_le_of_lt (Nat.div_mul_le_self m (2 ^ d)) hm.below
    have hcompare : UnpackedFloat.compare (.finite .positive (x.toUInt64.toNat * 2 ^ d) (-d)
        hfull.positive) (.finite .positive m (-d) hm.positive) =
          some (compare (x.toUInt64.toNat * 2 ^ d) m) := by
      simp only [UnpackedFloat.compare, Int.compare_eq_eq.mpr rfl, Ordering.eq_then]
    rw [lt_iff, unpack_toFloat hfull, hx, UnpackedFloat.lt, hcompare, beq_iff_eq, Option.some_inj,
      Nat.compare_eq_lt]
  · have hzero : x.toUInt64.toNat = 0 := by
      rw [hfloor]
      apply Nat.div_eq_of_lt
      exact Nat.lt_of_lt_of_le hm.below (Nat.pow_le_pow_right (by decide) (by omega))
    have hword : x.toUInt64 = 0 := UInt64.toNat_inj.mp hzero
    rw [lt_iff, hx, hzero, hword, Nat.zero_mul]
    exact iff_of_true rfl hm.positive

-- The least whole number that is not below.
theorem ceilNat_bounds : m ≤ ceilNat x * 2 ^ d ∧ ceilNat x * 2 ^ d < m + 2 ^ d := by
  have hfloor := toNat_toUInt64 hm hx
  have hless := Nat.div_mul_le_self m (2 ^ d)
  have hmore := Nat.lt_div_mul_add (a := m) (Nat.two_pow_pos d)
  rw [← hfloor] at hless hmore
  simp only [ceilNat, toFloat_floor_lt_iff hm hx]
  split
  · rw [Nat.succ_mul]
    omega
  · omega

end Ceiling

end DemandRouting.Number
