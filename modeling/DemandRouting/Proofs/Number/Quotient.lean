import DemandRouting.Performance.Counters
import DemandRouting.Proofs.Number.Finite
import DemandRouting.Proofs.Number.Rounding

namespace DemandRouting.Number

open Float.Model Float.Model.UnpackedFloat

-- The places that a mantissa has no room for.
def spare (n : Nat) : Nat := n.log2 - 52

-- A number without these places, off by half of the last one that is kept at most.
structure Near (n v : Nat) : Prop where
  multiple : 2 ^ spare n ∣ v
  least : 2 * n ≤ 2 * v + 2 ^ spare n
  most : 2 * v ≤ 2 * n + 2 ^ spare n

-- Rounding does not get past a number that is kept as it is.
theorem Near.le_of_le {n v c : Nat} (h : Near n v) (hc : 2 ^ spare n ∣ c) (hle : c ≤ n) :
    c ≤ v := by
  have hpos := Nat.two_pow_pos (spare n)
  have hleast := h.least
  exact Nat.le_of_lt_add_of_dvd (by omega) hc h.multiple

theorem Near.le_of_ge {n v c : Nat} (h : Near n v) (hc : 2 ^ spare n ∣ c) (hle : n ≤ c) :
    v ≤ c := by
  have hpos := Nat.two_pow_pos (spare n)
  have hmost := h.most
  exact Nat.le_of_lt_add_of_dvd (by omega) h.multiple hc

theorem Near.mono {n n' v v' : Nat} (h : Near n v) (h' : Near n' v') (hn : 0 < n)
    (hlt : n < n') : v ≤ v' := by
  have hn' : n' ≠ 0 := by omega
  have hlog : n.log2 ≤ n'.log2 :=
    (Nat.le_log2 hn').mpr (Nat.le_trans (Nat.log2_self_le hn.ne') hlt.le)
  rcases hlog.lt_or_eq with hlog | hlog
  · -- a power of two stands between them
    have hbelow : v ≤ 2 ^ (n.log2 + 1) := by
      apply h.le_of_ge (pow_dvd_pow 2 _) Nat.lt_log2_self.le
      rw [spare]
      omega
    have habove : 2 ^ n'.log2 ≤ v' := by
      apply h'.le_of_le (pow_dvd_pow 2 _) (Nat.log2_self_le hn')
      rw [spare]
      omega
    exact hbelow.trans ((Nat.pow_le_pow_right (by decide) hlog).trans habove)
  · have hspare : spare n = spare n' := by rw [spare, spare, hlog]
    have hmost := h.most
    have hleast := h'.least
    have hmultiple := h.multiple
    rw [hspare] at hmost hmultiple
    exact Nat.le_of_lt_add_of_dvd (by omega) hmultiple h'.multiple

-- The double is this whole number, written at full length.
def IsWhole (x : Float) (v : Nat) : Prop :=
  ∃ (m d : Nat) (hm : Full m), d ≤ 64 ∧ m * 2 ^ d = v * 2 ^ 52 ∧
    x.toModel.unpack = .finite .positive m (d - 52) hm.positive

theorem spare_of_short {n : Nat} (hn : n ≠ 0) (h : n < 2 ^ 53) : spare n = 0 := by
  have hlog := (Nat.log2_lt hn).mpr h
  rw [spare]
  omega

theorem Near.refl_of_short {n : Nat} (hn : n ≠ 0) (h : n < 2 ^ 53) : Near n n := by
  refine ⟨?_, Nat.le_add_right _ _, Nat.le_add_right _ _⟩
  rw [spare_of_short hn h]
  exact one_dvd n

theorem isWhole_of_short {w : UInt64} (hw : 0 < w.toNat) (h : w.toNat < 2 ^ 53) :
    IsWhole w.toFloat w.toNat := by
  obtain ⟨k, -, hk, hfull⟩ := exists_full hw h (Nat.le_refl 53)
  refine ⟨w.toNat * 2 ^ k, 52 - k, hfull, by omega, ?_, ?_⟩
  · rw [Nat.mul_assoc, ← Nat.pow_add, Nat.add_sub_cancel' hk]
  · have hexponent : ((52 - k : Nat) : Int) - 52 = -k := by omega
    rw [hexponent, unpack_toFloat hfull]

theorem toFloat_near_of_long {w : UInt64} {k : Nat} (hlog : w.toNat.log2 = 52 + k) :
    ∃ v, IsWhole w.toFloat v ∧ Near w.toNat v := by
  have hspare : spare w.toNat = k := by
    rw [spare]
    omega
  obtain ⟨m, j, hm, hj, hunpack, hleast, hmost⟩ := unpack_toFloat_long hlog
  have hne : w.toNat ≠ 0 := by
    intro hzero
    rw [hzero] at hlog
    have hnone : Nat.log2 0 = 0 := rfl
    omega
  have hbits := (Nat.log2_lt hne).mpr w.toNat_lt
  refine ⟨m * 2 ^ j, ⟨m, j + 52, hm, by omega, ?_, ?_⟩, ?_⟩
  · rw [Nat.pow_add, Nat.mul_assoc]
  · have hexponent : ((j + 52 : Nat) : Int) - 52 = j := by omega
    rw [hexponent, hunpack]
  · rw [← hspare] at hleast hmost
    refine ⟨Dvd.dvd.mul_left (pow_dvd_pow 2 ?_) m, hleast, hmost⟩
    omega

theorem toFloat_near {w : UInt64} (hw : 0 < w.toNat) :
    ∃ v, IsWhole w.toFloat v ∧ Near w.toNat v := by
  rcases Nat.lt_or_ge w.toNat (2 ^ 53) with hshort | hlong
  · exact ⟨w.toNat, isWhole_of_short hw hshort, .refl_of_short hw.ne' hshort⟩
  · have hleading : 52 ≤ w.toNat.log2 :=
      (Nat.le_log2 hw.ne').mpr (Nat.le_trans (Nat.pow_le_pow_right (by decide) (by decide)) hlong)
    obtain ⟨k, hlog⟩ := Nat.exists_eq_add_of_le hleading
    exact toFloat_near_of_long hlog

theorem le_one_of_unpack {x : Float} {m : Nat} {e : Int} {hm : 0 < m}
    (hx : x.toModel.unpack = .finite .positive m e hm)
    (h : e < -52 ∨ e = -52 ∧ m ≤ 2 ^ 52) : x ≤ 1.0 := by
  have horder : ((compare e (-52)).then (compare m (2 ^ 52))).isLE = true := by
    rcases h with hlt | ⟨rfl, hle⟩
    · rw [Int.compare_eq_lt.mpr hlt]
      rfl
    · rw [Int.compare_eq_eq.mpr rfl]
      exact Nat.isLE_compare.mpr hle
  rw [le_iff, hx, unpack_one]
  exact horder

-- Two numbers of full length are ordered by exponent, then by mantissa.
theorem Full.order_of_le {a b d d' : Nat} (ha : Full a) (hb : Full b)
    (h : a * 2 ^ d ≤ b * 2 ^ d') : d < d' ∨ d = d' ∧ a ≤ b := by
  rcases Nat.lt_trichotomy d d' with hlt | rfl | hgt
  · exact .inl hlt
  · exact .inr ⟨rfl, Nat.le_of_mul_le_mul_right h (Nat.two_pow_pos d)⟩
  · exfalso
    obtain ⟨k, rfl⟩ := Nat.exists_eq_add_of_lt hgt
    have hpower : 2 ^ (d' + k + 1) = 2 * 2 ^ k * 2 ^ d' := by ring
    rw [hpower, ← Nat.mul_assoc] at h
    have hle := Nat.le_of_mul_le_mul_right h (Nat.two_pow_pos d')
    have hone := Nat.one_le_two_pow (n := k)
    have hdouble : a * 2 ≤ a * (2 * 2 ^ k) := Nat.mul_le_mul_left a (by omega)
    have hleading := ha.leading
    have hbelow := hb.below
    omega

-- With 53 places more, the quotient is of full length or has one place too many.
theorem Full.log2_div {a b : Nat} (ha : Full a) (hb : Full b) :
    ∃ k, (a * 2 ^ 53 / b).log2 = 52 + k ∧ k ≤ 1 ∧ (a < b → k = 0) := by
  have hleast : 2 ^ 52 ≤ a * 2 ^ 53 / b := by
    rw [Nat.le_div_iff_mul_le hb.positive]
    exact Nat.mul_le_mul ha.leading hb.below.le
  have hmost : a * 2 ^ 53 / b < 2 ^ 54 := by
    rw [Nat.div_lt_iff_lt_mul hb.positive]
    calc a * 2 ^ 53 < 2 ^ 53 * 2 ^ 53 := Nat.mul_lt_mul_of_pos_right ha.below (by decide)
      _ = 2 ^ 54 * 2 ^ 52 := rfl
      _ ≤ 2 ^ 54 * b := Nat.mul_le_mul_left _ hb.leading
  have hne : a * 2 ^ 53 / b ≠ 0 := by omega
  have hlow := (Nat.le_log2 hne).mpr hleast
  have hhigh := (Nat.log2_lt hne).mpr hmost
  refine ⟨(a * 2 ^ 53 / b).log2 - 52, by omega, by omega, fun hlt => ?_⟩
  have hless : a * 2 ^ 53 / b < 2 ^ 53 := by
    rw [Nat.div_lt_iff_lt_mul hb.positive, Nat.mul_comm]
    exact Nat.mul_lt_mul_of_pos_left hlt (by decide)
  have hshort := (Nat.log2_lt hne).mpr hless
  omega

theorem divCore_full {a b : Nat} {e f : Int} (ha : Full a) (hb : Full b) (hlow : -1021 ≤ e - f) :
    divCore .binary64 a e b f =
      (a * 2 ^ 53 / b, e - f - 53, accuracyOfFraction (a * 2 ^ 53 % b) b) := by
  have htotal : totalExponent a e - totalExponent b f = e - f := by
    rw [totalExponent, totalExponent, ha.log2_eq, hb.log2_eq]
    omega
  have htarget : min (e - f) (Format.binary64.targetExponent (e - f)) = e - f - 53 := by
    have hformat : Format.binary64.targetExponent (e - f) = max (e - f - 53) (-1074) := rfl
    omega
  have hshift : (e - f - (e - f - 53)).toNat = 53 := by omega
  simp only [divCore, htotal, htarget, hshift, Nat.shiftLeft_eq]

section Quotient

variable {x y : Float} {a b : Nat} {e f : Int} (ha : Full a) (hb : Full b)
  (hx : x.toModel.unpack = .finite .positive a e ha.positive)
  (hy : y.toModel.unpack = .finite .positive b f hb.positive)

include hx hy

-- Rounding up may reach one, and then one it is.
theorem div_le_one_of_lt (hlow : -1000 ≤ e - f) (hlt : e < f ∨ e = f ∧ a < b) : x / y ≤ 1.0 := by
  obtain ⟨k, hlog, hk, hshort⟩ := ha.log2_div hb
  obtain ⟨m, j, hm, hj, hround, -⟩ := roundWithAccuracy_long (e := e - f - 53) hlog (by omega)
    .positive (accuracyOfFraction (a * 2 ^ 53 % b) b)
  have hcore := divCore_full (e := e) (f := f) ha hb (by omega)
  have hdiv : UnpackedFloat.div .binary64 x.toModel.unpack y.toModel.unpack =
      .finite .positive m (e - f - 53 + j) hm.positive := by
    rw [hx, hy]
    simp only [UnpackedFloat.div, hcore]
    exact hround
  have hunpack : (x / y).toModel.unpack = .finite .positive m (e - f - 53 + j) hm.positive := by
    rw [unpack_div, hdiv]
    exact unpack_pack hm (by omega) (by omega) .positive
  apply le_one_of_unpack hunpack
  rcases hlt with hlt | ⟨rfl, hlt⟩
  · omega
  · have hnone := hshort hlt
    omega

end Quotient

theorem IsWhole.div_le_one {x y : Float} {v v' : Nat} (hx : IsWhole x v) (hy : IsWhole y v')
    (hle : v ≤ v') (hpos : 0.0 < x) (hfinite : x.isFinite = true) : x / y ≤ 1.0 := by
  obtain ⟨a, d, ha, hd, hv, hx⟩ := hx
  obtain ⟨b, d', hb, hd', hv', hy⟩ := hy
  have hvalue : a * 2 ^ d ≤ b * 2 ^ d' := by
    rw [hv, hv']
    exact Nat.mul_le_mul_right _ hle
  rcases ha.order_of_le hb hvalue with hlt | ⟨rfl, hle⟩
  · exact div_le_one_of_lt ha hb hx hy (by omega) (.inl (by omega))
  rcases hle.lt_or_eq with hlt | rfl
  · exact div_le_one_of_lt ha hb hx hy (by omega) (.inr ⟨rfl, hlt⟩)
  · rw [eq_of_unpack (hy.trans hx.symm), div_self hpos hfinite]
    decide

theorem toFloat_pos {w : UInt64} (hw : 0 < w.toNat) : 0.0 < w.toFloat := by
  obtain ⟨v, ⟨m, d, hm, -, -, hunpack⟩, -⟩ := toFloat_near hw
  rw [lt_iff, unpack_zero, hunpack]
  rfl

theorem ratio_zero (x : Float) : ratio x (0 : UInt64).toFloat = 0.0 := if_pos (by decide)

-- A part of a count is at most the whole of it.
theorem ratio_le_one {a b : UInt64} (h : a ≤ b) : ratio a.toFloat b.toFloat ≤ 1.0 := by
  rw [UInt64.le_iff_toNat_le] at h
  rcases Nat.eq_zero_or_pos b.toNat with hb | hb
  · obtain rfl : b = 0 := UInt64.toNat_inj.mp hb
    rw [ratio_zero]
    decide
  have hpositive := toFloat_pos hb
  unfold ratio
  split
  · decide
  rcases Nat.eq_zero_or_pos a.toNat with ha | ha
  · obtain rfl : a = 0 := UInt64.toNat_inj.mp ha
    have hzero : (0 : UInt64).toFloat = 0.0 := by rfl
    rw [hzero, zero_div hpositive (isFinite_toFloat b)]
    decide
  · obtain ⟨v, hv, hnear⟩ := toFloat_near ha
    rcases h.lt_or_eq with hlt | heq
    · obtain ⟨v', hv', hnear'⟩ := toFloat_near hb
      exact hv.div_le_one hv' (hnear.mono hnear' ha hlt) (toFloat_pos ha) (isFinite_toFloat a)
    · obtain rfl : a = b := UInt64.toNat_inj.mp heq
      exact hv.div_le_one hv (Nat.le_refl v) hpositive (isFinite_toFloat a)

end DemandRouting.Number
