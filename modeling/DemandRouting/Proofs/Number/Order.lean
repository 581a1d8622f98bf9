import DemandRouting.Number.Binary
import Mathlib

namespace DemandRouting.Number

open Float.Model Float.Model.UnpackedFloat

theorem le_iff (x y : Float) :
    x ≤ y ↔ UnpackedFloat.le x.toModel.unpack y.toModel.unpack = true :=
  decide_eq_true_iff

theorem lt_iff (x y : Float) :
    x < y ↔ UnpackedFloat.lt x.toModel.unpack y.toModel.unpack = true :=
  decide_eq_true_iff

theorem isNaN_eq_false_iff {x : Float} : x.isNaN = false ↔ x.toModel.unpack ≠ .notANumber := by
  rw [← Bool.not_eq_true]
  exact not_congr UnpackedFloat.isNaN_iff

theorem compare_swap (u v : UnpackedFloat) :
    UnpackedFloat.compare v u = (UnpackedFloat.compare u v).map Ordering.swap := by
  have hfinite : ∀ (e₁ e₂ : Int) (m₁ m₂ : Nat),
      (compare e₂ e₁).then (compare m₂ m₁) = ((compare e₁ e₂).then (compare m₁ m₂)).swap := by
    intro e₁ e₂ m₁ m₂
    rw [Ordering.swap_then, Int.compare_swap, Nat.compare_swap]
  cases u with
  | notANumber => cases v <;> rfl
  | infinity s => cases v with
    | infinity t => cases s <;> cases t <;> rfl
    | _ => cases s <;> rfl
  | zero s => cases v with
    | infinity t => cases t <;> rfl
    | finite t => cases t <;> rfl
    | _ => rfl
  | finite s m e hm => cases v with
    | infinity t => cases t <;> rfl
    | zero t => cases s <;> rfl
    | notANumber => rfl
    | finite t m' e' hm' =>
      cases s <;> cases t <;> simp [UnpackedFloat.compare, hfinite e e' m m']

-- NaN is the only one that compares with nothing.
theorem compare_eq_none_iff (u v : UnpackedFloat) :
    UnpackedFloat.compare u v = none ↔ u = .notANumber ∨ v = .notANumber := by
  unfold UnpackedFloat.compare
  split <;> simp_all

theorem not_lt_iff {x y : Float} (hx : x.isNaN = false) (hy : y.isNaN = false) :
    ¬ x < y ↔ y ≤ x := by
  rw [isNaN_eq_false_iff] at hx hy
  rw [lt_iff, le_iff, UnpackedFloat.lt, UnpackedFloat.le,
    compare_swap x.toModel.unpack y.toModel.unpack]
  cases horder : UnpackedFloat.compare x.toModel.unpack y.toModel.unpack with
  | none => exact absurd ((compare_eq_none_iff _ _).mp horder) (not_or.mpr ⟨hx, hy⟩)
  | some order => cases order <;> decide

theorem not_le_iff {x y : Float} (hx : x.isNaN = false) (hy : y.isNaN = false) :
    ¬ x ≤ y ↔ y < x := by
  rw [← not_lt_iff hy hx, not_not]

theorem isNaN_of_le {x y : Float} (h : x ≤ y) : x.isNaN = false ∧ y.isNaN = false := by
  rw [isNaN_eq_false_iff, isNaN_eq_false_iff, ← not_or, ← compare_eq_none_iff]
  intro hnone
  rw [le_iff, UnpackedFloat.le, hnone] at h
  cases h

theorem le_self {x : Float} (h : x.isNaN = false) : x ≤ x := by
  rw [isNaN_eq_false_iff] at h
  have hswap := compare_swap x.toModel.unpack x.toModel.unpack
  rw [le_iff, UnpackedFloat.le]
  cases horder : UnpackedFloat.compare x.toModel.unpack x.toModel.unpack with
  | none => exact absurd ((compare_eq_none_iff _ _).mp horder) (not_or.mpr ⟨h, h⟩)
  | some order =>
    rw [horder] at hswap
    cases order with
    | lt => cases hswap
    | eq => rfl
    | gt => cases hswap

structure Between (low high x : Float) : Prop where
  number : x.isNaN = false
  above : low ≤ x
  below : x ≤ high

theorem Between.of_le {low high x : Float} (hlow : low ≤ x) (hhigh : x ≤ high) :
    Between low high x :=
  ⟨(isNaN_of_le hlow).2, hlow, hhigh⟩

theorem between_clamp {low high x : Float} (h : low ≤ high) (hx : x.isNaN = false) :
    Between low high (clamp low high x) := by
  obtain ⟨hlow, hhigh⟩ := isNaN_of_le h
  unfold clamp
  split
  · exact .of_le (le_self hlow) h
  · rename_i hbelow
    split
    · exact .of_le h (le_self hhigh)
    · rename_i habove
      exact .of_le ((not_lt_iff hx hlow).mp hbelow) ((not_lt_iff hhigh hx).mp habove)

end DemandRouting.Number
