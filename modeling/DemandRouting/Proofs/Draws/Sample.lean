import DemandRouting.Draws.Generator
import DemandRouting.Proofs.Number.Sign
import Mathlib.Data.List.Nodup
import Mathlib.Data.List.Range

namespace DemandRouting.Stream

theorem insertBefore_perm (t j : Nat) (picked : List Nat) :
    (insertBefore t j picked).Perm (j :: picked) := by
  induction picked with
  | nil => exact .refl _
  | cons x xs ih =>
    simp only [insertBefore]
    split
    · exact .refl _
    · exact (ih.cons x).trans (.swap j x xs)

-- Either the drawn place is new, or the place that stands in for it is.
theorem takeIn_perm (ordered : Bool) (picked : List Nat) (j t : Nat) :
    (takeIn ordered picked j t).Perm ((if t ∈ picked then j else t) :: picked) := by
  by_cases ht : t ∈ picked
  · have hc : picked.contains t = true := by simpa using ht
    simp only [takeIn, hc, ht, ite_true]
    cases ordered with
    | true => exact insertBefore_perm t j picked
    | false => exact List.perm_append_singleton j picked
  · have hc : picked.contains t = false := by simpa using ht
    simp only [takeIn, hc, ht, ite_false, Bool.false_eq_true]
    exact List.perm_append_singleton t picked

structure Distinct (bound : Nat) (places : List Nat) : Prop where
  nodup : places.Nodup
  below : ∀ i ∈ places, i < bound

theorem Distinct.perm {bound : Nat} {places places' : List Nat} (h : Distinct bound places)
    (hp : places'.Perm places) : Distinct bound places' :=
  ⟨hp.nodup_iff.mpr h.nodup, fun i hi => h.below i (hp.mem_iff.mp hi)⟩

theorem Distinct.takeIn {picked : List Nat} {j t : Nat} (h : Distinct j picked) (ht : t ≤ j)
    (ordered : Bool) : Distinct (j + 1) (takeIn ordered picked j t) := by
  apply Distinct.perm _ (takeIn_perm ordered picked j t)
  have hj : j ∉ picked := fun hm => Nat.lt_irrefl j (h.below j hm)
  have hrest : ∀ i ∈ picked, i < j + 1 := fun i hi => Nat.lt_succ_of_lt (h.below i hi)
  split
  · exact ⟨h.nodup.cons hj, List.forall_mem_cons.mpr ⟨Nat.lt_succ_self j, hrest⟩⟩
  · rename_i hnew
    exact ⟨h.nodup.cons hnew, List.forall_mem_cons.mpr ⟨Nat.lt_succ_of_le ht, hrest⟩⟩

theorem takeEach_distinct (ordered : Bool) (count start : Nat) (picked : List Nat) (s : Stream)
    (h : Distinct start picked) :
    Distinct (start + count) (takeEach ordered (List.range' start count) picked s).1 ∧
      (takeEach ordered (List.range' start count) picked s).1.length = picked.length + count := by
  induction count generalizing start picked s with
  | zero => exact ⟨h, rfl⟩
  | succ count ih =>
    simp only [List.range'_succ, takeEach]
    have hnext := h.takeIn (upTo_le start s) ordered
    obtain ⟨hd, hl⟩ := ih (start + 1) _ (s.upTo start).2 hnext
    have hlen := (takeIn_perm ordered picked start (s.upTo start).1).length_eq
    simp only [List.length_cons] at hlen
    refine ⟨?_, by omega⟩
    simpa only [Nat.add_assoc, Nat.add_comm 1] using hd

theorem swapIfInBounds_perm (places : Array Nat) (i j : Nat) :
    (places.swapIfInBounds i j).toList.Perm places.toList := by
  rw [Array.swapIfInBounds_def]
  by_cases hi : i < places.size
  · by_cases hj : j < places.size
    · simpa only [hi, hj, dite_true] using (Array.swap_perm hi hj).toList
    · simp only [hj, dite_false, dite_eq_ite, ite_self, List.Perm.refl]
  · simp only [hi, dite_false, List.Perm.refl]

theorem shuffle_perm (i : Nat) (places : Array Nat) (s : Stream) :
    (shuffle i places s).1.toList.Perm places.toList := by
  induction i generalizing places s with
  | zero => exact .refl _
  | succ i ih => exact (ih _ _).trans (swapIfInBounds_perm places _ _)

theorem shuffleFront_perm (length count i : Nat) (places : Array Nat) (s : Stream) :
    (shuffleFront length count i places s).1.toList.Perm places.toList := by
  induction count generalizing i places s with
  | zero => exact .refl _
  | succ count ih => exact (ih _ _ _).trans (swapIfInBounds_perm places _ _)

theorem builtUp_distinct {length amount : Nat} (h : amount ≤ length) (s : Stream) :
    Distinct length (builtUp length amount s).1 ∧ (builtUp length amount s).1.length = amount := by
  have hstart : Distinct (length - amount) [] := ⟨.nil, by simp⟩
  obtain ⟨hd, hl⟩ :=
    takeEach_distinct (decide (amount < orderedSize)) amount (length - amount) [] s hstart
  rw [Nat.sub_add_cancel h] at hd
  rw [List.length_nil, Nat.zero_add] at hl
  simp only [builtUp]
  generalize takeEach (decide (amount < orderedSize)) (List.range' (length - amount) amount) [] s =
    taken at hd hl ⊢
  split
  · exact ⟨hd, hl⟩
  · have hp := shuffle_perm (amount - 1) taken.1.toArray taken.2
    exact ⟨hd.perm hp, hp.length_eq.trans hl⟩

theorem front_distinct {length amount : Nat} (h : amount ≤ length) (s : Stream) :
    Distinct length (front length amount s).1 ∧ (front length amount s).1.length = amount := by
  have hp := shuffleFront_perm length amount 0 (Array.range length) s
  rw [Array.toList_range] at hp
  have hall : Distinct length (List.range length) :=
    ⟨List.nodup_range, fun i hi => List.mem_range.mp hi⟩
  have hd := hall.perm hp
  have hl := hp.length_eq
  rw [List.length_range] at hl
  refine ⟨⟨hd.nodup.sublist (List.take_sublist _ _), fun i hi => ?_⟩, ?_⟩
  · exact hd.below i (List.mem_of_mem_take hi)
  · simp only [front, List.length_take]
    omega

-- What is assumed of a source of draws holds of a stream from any seed at any place.
theorem generator_lawful : generator.Lawful := by
  intro length amount s h
  simp only [generator, sample]
  split
  · obtain ⟨hd, hl⟩ := front_distinct h s
    exact ⟨hl, hd.nodup, hd.below⟩
  · obtain ⟨hd, hl⟩ := builtUp_distinct h s
    exact ⟨hl, hd.nodup, hd.below⟩

end DemandRouting.Stream

namespace DemandRouting

-- No coin is below zero, and none is NaN.
def Generator.NonnegCoins {σ : Type} (g : Generator σ) : Prop := ∀ s, 0.0 ≤ (g.coin s).1

theorem Stream.generator_nonnegCoins : Stream.generator.NonnegCoins := by
  intro s
  have hstep : (1.1102230246251565e-16 : Float).toModel.unpack =
      .finite .positive 4503599627370496 (-105) (by decide) := by rfl
  exact Number.zero_le_mul (Number.zero_le_toFloat _) hstep

end DemandRouting
