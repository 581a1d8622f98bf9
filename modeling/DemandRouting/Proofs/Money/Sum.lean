import DemandRouting.Money.Basic
import Mathlib.Algebra.BigOperators.Group.List.Basic
import Mathlib.Data.List.Induction
import Mathlib.Tactic.Positivity
import Mathlib.Tactic.Ring

namespace DemandRouting.Money

-- Added one after the other, from nothing.
def sum? (amounts : List Money) : Option Money := amounts.foldlM add? zero

theorem sum?_append_singleton (amounts : List Money) (a : Money) :
    sum? (amounts ++ [a]) = (sum? amounts).bind (·.add? a) := by
  simp only [sum?, List.foldlM_append, List.foldlM_cons, List.foldlM_nil, bind_pure]
  rfl

theorem natAbs_units (a : Money) : a.units.natAbs = a.magnitude := by
  unfold units
  split <;> simp

theorem unitsAt_eq_mul {a : Money} {s t : Nat} (hs : a.scale ≤ s) (ht : s ≤ t) :
    a.unitsAt t = a.unitsAt s * 10 ^ (t - s) := by
  have hpow : t - a.scale = (s - a.scale) + (t - s) := by omega
  rw [unitsAt, unitsAt, hpow, pow_add, mul_assoc]

theorem natAbs_unitsAt (a : Money) (s : Nat) :
    (a.unitsAt s).natAbs = a.magnitude * 10 ^ (s - a.scale) := by
  rw [unitsAt, Int.natAbs_mul, natAbs_units, Int.natAbs_pow]
  rfl

theorem make?_eq_some {units : Int} {scale : Nat} (hu : units.natAbs < 2 ^ 96)
    (hs : scale ≤ 28) :
    ∃ c, make? units scale = some c ∧ c.units = units ∧ c.scale = scale := by
  have hfits : units.natAbs < 2 ^ 96 ∧ scale ≤ 28 := ⟨hu, hs⟩
  refine ⟨_, dif_pos hfits, ?_, rfl⟩
  simp only [Money.units, decide_eq_true_eq]
  split <;> omega

-- At most `n` in either direction.
def Within (n : Nat) (a : Money) : Prop := a.magnitude ≤ n * 10 ^ a.scale

theorem Within.mono {m n : Nat} {a : Money} (h : Within m a) (hmn : m ≤ n) : Within n a :=
  Nat.le_trans h (Nat.mul_le_mul_right _ hmn)

theorem within_zero (n : Nat) : Within n zero := Nat.zero_le _

-- Rounding stays below every whole bound.
theorem natAbs_dropPlaces_le {n : Int} {bound places : Nat}
    (h : n.natAbs ≤ bound * 10 ^ places) : (dropPlaces n places).natAbs ≤ bound := by
  have hstep : 0 < 10 ^ places := by positivity
  have hq : n.natAbs / 10 ^ places ≤ bound := Nat.div_le_of_le_mul (by rwa [Nat.mul_comm])
  have hsplit := Nat.div_add_mod n.natAbs (10 ^ places)
  have hround : (if 10 ^ places < 2 * (n.natAbs % 10 ^ places) ∨
      (10 ^ places = 2 * (n.natAbs % 10 ^ places) ∧ n.natAbs / 10 ^ places % 2 = 1)
      then n.natAbs / 10 ^ places + 1 else n.natAbs / 10 ^ places) ≤ bound := by
    by_cases hlt : n.natAbs / 10 ^ places < bound
    · split <;> omega
    · -- at the bound itself nothing is left to round
      have heq : n.natAbs / 10 ^ places = bound := by omega
      rw [heq, Nat.mul_comm] at hsplit
      have hrest : n.natAbs % 10 ^ places = 0 := by omega
      rw [hrest, if_neg (by omega)]
      exact hq
  simp only [dropPlaces]
  by_cases hneg : n < 0
  · rw [if_pos hneg, Int.natAbs_neg, Int.natAbs_natCast]
    exact hround
  · rw [if_neg hneg, Int.natAbs_natCast]
    exact hround

theorem fit?_within {units : Int} {bound : Nat} (hbound : bound < 2 ^ 96) (dropped scale : Nat)
    (hs : scale ≤ 28) (hu : units.natAbs ≤ bound * 10 ^ (dropped + scale)) :
    ∃ c, fit? units dropped scale = some c ∧ Within bound c := by
  induction scale generalizing dropped with
  | zero =>
    have hround : (dropPlaces units dropped).natAbs ≤ bound := natAbs_dropPlaces_le hu
    obtain ⟨c, hc, hunits, hscale⟩ := make?_eq_some (Nat.lt_of_le_of_lt hround hbound) hs
    refine ⟨c, hc, ?_⟩
    rw [Within, ← natAbs_units, hunits, hscale]
    simpa using hround
  | succ scale ih =>
    rw [fit?]
    have hwhole : units.natAbs ≤ bound * 10 ^ (scale + 1) * 10 ^ dropped := by
      rw [mul_assoc, ← pow_add, Nat.add_comm (scale + 1)]
      exact hu
    have hround := natAbs_dropPlaces_le hwhole
    by_cases hfits : (dropPlaces units dropped).natAbs < 2 ^ 96
    · obtain ⟨c, hc, hunits, hscale⟩ := make?_eq_some hfits hs
      refine ⟨c, by rw [hc], ?_⟩
      rw [Within, ← natAbs_units, hunits, hscale]
      exact hround
    · have hnone : make? (dropPlaces units dropped) (scale + 1) = none :=
        dif_neg fun h => hfits h.1
      rw [hnone]
      apply ih (dropped + 1) (by omega)
      rwa [Nat.add_assoc, Nat.add_comm 1]

theorem natAbs_unitsAt_le {n s : Nat} {a : Money} (h : Within n a) (hs : a.scale ≤ s) :
    (a.unitsAt s).natAbs ≤ n * 10 ^ s := by
  have hpow : 10 ^ s = 10 ^ a.scale * 10 ^ (s - a.scale) := by
    rw [← pow_add, Nat.add_sub_cancel' hs]
  rw [natAbs_unitsAt, hpow, ← mul_assoc]
  exact Nat.mul_le_mul_right _ h

-- A sum exists and stays within the sum of the bounds, rounded or not.
theorem add?_within {m n : Nat} {a b : Money} (ha : Within m a) (hb : Within n b)
    (hroom : m + n < 2 ^ 96) : ∃ c, a.add? b = some c ∧ Within (m + n) c := by
  unfold add?
  split
  · exact ⟨b, rfl, hb.mono (Nat.le_add_left n m)⟩
  · split
    · exact ⟨a, rfl, ha.mono (Nat.le_add_right m n)⟩
    · have hua := natAbs_unitsAt_le ha (Nat.le_max_left a.scale b.scale)
      have hub := natAbs_unitsAt_le hb (Nat.le_max_right a.scale b.scale)
      apply fit?_within hroom 0 _ (Nat.max_le.mpr ⟨a.shallow, b.shallow⟩)
      rw [Nat.zero_add, Nat.add_mul]
      exact (Int.natAbs_add_le _ _).trans (Nat.add_le_add hua hub)

-- In units of `1 / 10 ^ 28`, of which every amount holds a whole number.
def value (a : Money) : Int := a.unitsAt 28

-- Amounts compare as their values, whatever their places.
theorem compare_eq_value (a b : Money) : a.compare b = Ord.compare a.value b.value := by
  have hscale : max a.scale b.scale ≤ 28 := Nat.max_le.mpr ⟨a.shallow, b.shallow⟩
  have hpos : 0 < (10 : Int) ^ (28 - max a.scale b.scale) := by positivity
  rw [compare, value, value, unitsAt_eq_mul (Nat.le_max_left _ _) hscale,
    unitsAt_eq_mul (Nat.le_max_right _ _) hscale]
  generalize a.unitsAt (max a.scale b.scale) = x
  generalize b.unitsAt (max a.scale b.scale) = y
  rcases Int.lt_trichotomy x y with hlt | rfl | hgt
  · rw [Int.compare_eq_lt.mpr hlt, Int.compare_eq_lt.mpr (Int.mul_lt_mul_of_pos_right hlt hpos)]
  · rw [Int.compare_eq_eq.mpr rfl, Int.compare_eq_eq.mpr rfl]
  · rw [Int.compare_eq_gt.mpr hgt, Int.compare_eq_gt.mpr (Int.mul_lt_mul_of_pos_right hgt hpos)]

-- The sum where nothing is rounded.
def addExactly? (a b : Money) : Option Money :=
  (a.add? b).filter fun c => c.value = a.value + b.value

def sumExactly? (amounts : List Money) : Option Money := amounts.foldlM addExactly? zero

theorem addExactly?_eq_some {a b c : Money} :
    addExactly? a b = some c ↔ a.add? b = some c ∧ c.value = a.value + b.value := by
  rw [addExactly?, Option.filter_eq_some_iff, decide_eq_true_eq]

theorem sumExactly?_append_singleton (amounts : List Money) (a : Money) :
    sumExactly? (amounts ++ [a]) = (sumExactly? amounts).bind (addExactly? · a) := by
  simp only [sumExactly?, List.foldlM_append, List.foldlM_cons, List.foldlM_nil, bind_pure]
  rfl

-- Where every addition is exact, the sum is the sum of the values.
theorem sum?_of_sumExactly? {amounts : List Money} {c : Money} (h : sumExactly? amounts = some c) :
    sum? amounts = some c ∧ c.value = (amounts.map value).sum := by
  induction amounts using List.reverseRecOn generalizing c with
  | nil =>
    obtain rfl : zero = c := Option.some_inj.mp h
    exact ⟨rfl, rfl⟩
  | append_singleton amounts a ih =>
    rw [sumExactly?_append_singleton] at h
    obtain ⟨b, hb, hadd⟩ := Option.bind_eq_some_iff.mp h
    obtain ⟨hsum, hvalue⟩ := ih hb
    obtain ⟨hc, hexact⟩ := addExactly?_eq_some.mp hadd
    refine ⟨?_, ?_⟩
    · rw [sum?_append_singleton, hsum]
      exact hc
    · rw [List.map_append, List.sum_append, List.map_singleton, List.sum_singleton, hexact, hvalue]

-- At most so many places, and at most `n` of the smallest units that these allow.
structure Fits (scale n : Nat) (a : Money) : Prop where
  places : a.scale ≤ scale
  units : (a.unitsAt scale).natAbs ≤ n

end DemandRouting.Money
