import DemandRouting.Scoring.Scorer
import Mathlib.Data.List.Nodup

namespace DemandRouting.ScoredBidder

-- Whether `b` stands before `c`: its total is higher, or equal and listed earlier.
def Outranks (scores : List ScoredBidder) (b c : ScoredBidder) : Prop :=
  Number.rank c.total < Number.rank b.total ∨
    (Number.rank b.total = Number.rank c.total ∧ [b, c].Sublist scores)

theorem precedes_iff (a b : ScoredBidder) :
    precedes a b = true ↔ Number.rank b.total ≤ Number.rank a.total := by
  simp only [precedes, decide_eq_true_eq]

theorem precedes_trans (a b c : ScoredBidder) (hab : precedes a b = true)
    (hbc : precedes b c = true) : precedes a c = true := by
  rw [precedes_iff] at hab hbc ⊢
  omega

theorem precedes_total (a b : ScoredBidder) : (precedes a b || precedes b a) = true := by
  rw [Bool.or_eq_true, precedes_iff, precedes_iff]
  omega

theorem bestFirst_perm (scores : List ScoredBidder) : (bestFirst scores).Perm scores :=
  List.mergeSort_perm scores precedes

@[simp] theorem mem_bestFirst {scores : List ScoredBidder} {b : ScoredBidder} :
    b ∈ bestFirst scores ↔ b ∈ scores :=
  (bestFirst_perm scores).mem_iff

theorem bestFirst_pairwise (scores : List ScoredBidder) :
    (bestFirst scores).Pairwise fun a b => Number.rank b.total ≤ Number.rank a.total :=
  (List.pairwise_mergeSort precedes_trans precedes_total scores).imp (precedes_iff _ _).mp

-- Candidates of one total keep their order.
theorem filter_rank_bestFirst (scores : List ScoredBidder) (r : Int) :
    (bestFirst scores).filter (Number.rank ·.total = r) =
      scores.filter (Number.rank ·.total = r) := by
  have hflat : (scores.filter (Number.rank ·.total = r)).Pairwise (precedes · · = true) := by
    apply List.pairwise_of_forall_mem_list
    intro a ha b hb
    have ha := (List.mem_filter.mp ha).2
    have hb := (List.mem_filter.mp hb).2
    rw [decide_eq_true_eq] at ha hb
    rw [precedes_iff]
    omega
  have hsub := (List.sublist_mergeSort precedes_trans precedes_total hflat
    List.filter_sublist).filter (Number.rank ·.total = r)
  rw [List.filter_filter, List.filter_congr (q := (Number.rank ·.total = r))
    (by intro b _; simp only [Bool.and_self])] at hsub
  exact (hsub.eq_of_length ((bestFirst_perm scores).filter _).length_eq.symm).symm

-- The same scores best first: nobody lost or repeated, no total before a higher one, and those of
-- one total in the order in which they came.
structure IsBestFirst (scores ranked : List ScoredBidder) : Prop where
  perm : ranked.Perm scores
  descending : ranked.Pairwise fun a b => Number.rank b.total ≤ Number.rank a.total
  stable : ∀ r, ranked.filter (Number.rank ·.total = r) = scores.filter (Number.rank ·.total = r)

theorem bestFirst_isBestFirst (scores : List ScoredBidder) :
    IsBestFirst scores (bestFirst scores) where
  perm := bestFirst_perm scores
  descending := bestFirst_pairwise scores
  stable := filter_rank_bestFirst scores

theorem mem_iff_of_filter_rank {as bs : List ScoredBidder}
    (h : ∀ r, as.filter (Number.rank ·.total = r) = bs.filter (Number.rank ·.total = r))
    (c : ScoredBidder) : c ∈ as ↔ c ∈ bs := by
  have hone : c ∈ as.filter (Number.rank ·.total = Number.rank c.total) ↔
      c ∈ bs.filter (Number.rank ·.total = Number.rank c.total) := by rw [h]
  simpa using hone

-- The induction takes the heads off together. Each stands in the other list as well, so that they
-- have one total, and both are the first of it.
theorem eq_of_filter_rank {as bs : List ScoredBidder}
    (has : as.Pairwise fun a b => Number.rank b.total ≤ Number.rank a.total)
    (hbs : bs.Pairwise fun a b => Number.rank b.total ≤ Number.rank a.total)
    (h : ∀ r, as.filter (Number.rank ·.total = r) = bs.filter (Number.rank ·.total = r)) :
    as = bs := by
  have hmem := mem_iff_of_filter_rank h
  induction as generalizing bs with
  | nil =>
    cases bs with
    | nil => rfl
    | cons b bs => exact absurd ((hmem b).mpr List.mem_cons_self) List.not_mem_nil
  | cons a as ih =>
    cases bs with
    | nil => exact absurd ((hmem a).mp List.mem_cons_self) List.not_mem_nil
    | cons b bs =>
      obtain ⟨hbelow, hrest⟩ := List.pairwise_cons.mp has
      obtain ⟨hbelow', hrest'⟩ := List.pairwise_cons.mp hbs
      have hle : Number.rank b.total ≤ Number.rank a.total := by
        rcases List.mem_cons.mp ((hmem b).mpr List.mem_cons_self) with rfl | hb
        · exact Int.le_refl _
        · exact hbelow b hb
      have hge : Number.rank a.total ≤ Number.rank b.total := by
        rcases List.mem_cons.mp ((hmem a).mp List.mem_cons_self) with rfl | ha
        · exact Int.le_refl _
        · exact hbelow' a ha
      have hheads := h (Number.rank b.total)
      simp only [List.filter_cons, Int.le_antisymm hge hle, decide_true, ite_true,
        List.cons.injEq] at hheads
      obtain ⟨rfl, -⟩ := hheads
      have htails : ∀ r, as.filter (Number.rank ·.total = r) =
          bs.filter (Number.rank ·.total = r) := by
        intro r
        have hboth := h r
        rw [List.filter_cons, List.filter_cons] at hboth
        split at hboth
        · exact (List.cons.inj hboth).2
        · exact hboth
      rw [ih hrest hrest' htails (mem_iff_of_filter_rank htails)]

-- There is only one such order.
theorem IsBestFirst.eq_bestFirst {scores ranked : List ScoredBidder}
    (h : IsBestFirst scores ranked) : ranked = bestFirst scores :=
  eq_of_filter_rank h.descending (bestFirst_pairwise scores) fun r =>
    (h.stable r).trans (filter_rank_bestFirst scores r).symm

-- Leaving some out and ranking the others can be done in either order.
theorem filter_bestFirst (keep : ScoredBidder → Bool) (scores : List ScoredBidder) :
    (bestFirst scores).filter keep = bestFirst (scores.filter keep) := by
  apply IsBestFirst.eq_bestFirst
  constructor
  case perm => exact (bestFirst_perm scores).filter keep
  case descending => exact (bestFirst_pairwise scores).filter keep
  case stable =>
    intro r
    rw [List.filter_comm, filter_rank_bestFirst, List.filter_comm]

theorem outranks_of_sublist {scores : List ScoredBidder} {b c : ScoredBidder}
    (h : [b, c].Sublist (bestFirst scores)) : Outranks scores b c := by
  have hpair := (bestFirst_pairwise scores).sublist h
  have hle : Number.rank c.total ≤ Number.rank b.total := List.rel_of_pairwise_cons hpair (by simp)
  by_cases heq : Number.rank b.total = Number.rank c.total
  · refine .inr ⟨heq, ?_⟩
    have hsame := h.filter (Number.rank ·.total = Number.rank c.total)
    rw [filter_rank_bestFirst] at hsame
    simp only [List.filter_cons, heq, decide_true, ite_true, List.filter_nil] at hsame
    exact hsame.trans List.filter_sublist
  · exact .inl (by omega)

-- Bidders with different codes still have different codes.
theorem nodup_codes_bestFirst {scores : List ScoredBidder} (h : (scores.map (·.bidder)).Nodup) :
    ((bestFirst scores).map (·.bidder)).Nodup :=
  ((bestFirst_perm scores).map _).nodup_iff.mpr h

-- From snapshots and from the sources: as every bidder is scored alone, and best first, whatever
-- the numbers are and however often a bidder is listed.
theorem scoreAll_isBestFirst (settings : ScoringSettings) (o : Opportunity) :
    (∀ snapshots : List Snapshot,
        IsBestFirst (snapshots.map fun s => ofSnapshot settings s.bidder o s)
          (ofSnapshots settings o snapshots)) ∧
      ∀ (sources : Sources) (withRecent : Bool) (bidders : List String),
        IsBestFirst (bidders.map fun bidder => (fetch settings sources withRecent bidder o).score)
          (ofSources settings sources withRecent bidders o) := by
  constructor
  · intro snapshots
    exact bestFirst_isBestFirst _
  · intro sources withRecent bidders
    have hscores : (fetchAll settings sources withRecent bidders o).map (·.score) =
        bidders.map fun bidder => (fetch settings sources withRecent bidder o).score :=
      List.map_map
    rw [ofSources, hscores]
    exact bestFirst_isBestFirst _

end DemandRouting.ScoredBidder
