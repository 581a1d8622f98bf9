import DemandRouting.Proofs.Number.Sign
import DemandRouting.Scoring.Scorer

namespace DemandRouting

open Number (Between)

namespace Component

theorem bounded_between (x : Float) : Between 0.0 100.0 (bounded x) := by
  unfold bounded
  split
  · exact .of_le (by decide) (by decide)
  · rename_i hnumber
    exact Number.between_clamp (by decide) (Bool.not_eq_true _ ▸ hnumber)

theorem cpmScore_between (averageBid : Float) (floor : Option Float) :
    Between 0.0 100.0 (cpmScore averageBid floor) := by
  unfold cpmScore
  split
  · exact bounded_between _
  · split
    · exact bounded_between _
    · exact bounded_between _

theorem latencyScore_between (p95 : Float) : Between 0.0 100.0 (latencyScore p95) := by
  unfold latencyScore
  split
  · exact .of_le (by decide) (by decide)
  · split
    · exact .of_le (by decide) (by decide)
    · exact bounded_between _

theorem recencyScore_between (recent lifetime : Float) (samples minSamples : UInt64) :
    Between 0.0 100.0 (recencyScore recent lifetime samples minSamples) := by
  unfold recencyScore
  split
  · exact .of_le (by decide) (by decide)
  · exact bounded_between _

theorem idMatchScore_between (preferred available : List String) :
    Between 0.0 100.0 (idMatchScore preferred available) := by
  unfold idMatchScore
  split
  · exact .of_le (by decide) (by decide)
  · split
    · exact .of_le (by decide) (by decide)
    · exact bounded_between _

end Component

namespace ScoredBidder

theorem componentsOf_between (settings : ScoringSettings) (bidder : String) (o : Opportunity)
    (i : ScoringInput) (c : Component) :
    Between 0.0 100.0 ((componentsOf settings bidder o i).get c) := by
  cases c with
  | winRate => exact Component.bounded_between _
  | bidRate => exact Component.bounded_between _
  | cpm => exact Component.cpmScore_between _ _
  | floorClearance => exact Component.bounded_between _
  | latency => exact Component.latencyScore_between _
  | recency => exact Component.recencyScore_between _ _ _ _
  | idMatch => exact Component.idMatchScore_between _ _

end ScoredBidder

namespace Weights

theorem total_eq_foldl_append (front back : List Float) :
    total (front ++ back) = back.foldl (· + ·) (total front) :=
  List.foldl_append

theorem zero_le_foldl {x : Float} {xs : List Float} (hx : 0.0 ≤ x) (h : ∀ y ∈ xs, 0.0 ≤ y) :
    0.0 ≤ xs.foldl (· + ·) x :=
  List.foldlRecOn xs _ hx fun _ hsum y hy => Number.zero_le_add hsum (h y hy)

theorem zero_le_total {xs : List Float} (h : ∀ x ∈ xs, 0.0 ≤ x) : 0.0 ≤ total xs :=
  zero_le_foldl (by decide) h

theorem total_eq_infinity {xs : List Float} (h : ∀ x ∈ xs, 0.0 ≤ x)
    (hinfinity : Number.infinity ∈ xs) : total xs = Number.infinity := by
  obtain ⟨front, back, rfl⟩ := List.append_of_mem hinfinity
  rw [List.forall_mem_append, List.forall_mem_cons] at h
  obtain ⟨hfront, -, hback⟩ := h
  rw [total_eq_foldl_append, List.foldl_cons, Number.add_infinity (zero_le_total hfront)]
  apply List.foldlRecOn (motive := fun x => x = Number.infinity) back _ rfl
  rintro _ rfl y hy
  exact Number.infinity_add (hback y hy)

-- Weights that were let through.
structure Valid (w : PerComponent) : Prop where
  zero_le : ∀ c, 0.0 ≤ w.get c
  isFinite : ∀ c, (w.get c).isFinite = true

theorem mem_all (c : Component) : c ∈ Component.all := by
  cases c <;> decide

theorem valid_of_validate {w : PerComponent} (h : validate w = .ok ()) : Valid w := by
  unfold validate at h
  split at h
  · cases h
  rename_i hnone
  split at h
  · cases h
  rename_i hsum
  have hzero : ∀ c, 0.0 ≤ w.get c := by
    intro c
    have hgood := List.find?_eq_none.mp hnone c (mem_all c)
    rw [Bool.not_eq_true, isBad, Bool.or_eq_false_iff, decide_eq_false_iff_not] at hgood
    exact (Number.not_lt_iff hgood.2 rfl).mp hgood.1
  refine ⟨hzero, fun c => ?_⟩
  -- an infinite weight makes the sum infinite, which is far from one
  by_contra hinfinite
  rw [Bool.not_eq_true] at hinfinite
  apply hsum
  have hall : ∀ x ∈ Component.all.map w.get, 0.0 ≤ x := by
    simp only [List.mem_map, forall_exists_index, and_imp, forall_apply_eq_imp_iff₂]
    exact fun c _ => hzero c
  have hmem : Number.infinity ∈ Component.all.map w.get :=
    List.mem_map.mpr ⟨c, mem_all c, Number.eq_infinity (hzero c) hinfinite⟩
  rw [sum, total_eq_infinity hall hmem]
  decide

theorem validate_standard : validate standard = .ok () := by decide +kernel

theorem isFinite_of_between {x : Float} (h : Between 0.0 100.0 x) : x.isFinite = true := by
  by_contra hinfinite
  rw [Bool.not_eq_true] at hinfinite
  have hbelow := h.below
  rw [Number.eq_infinity h.above hinfinite] at hbelow
  exact absurd hbelow (by decide)

theorem combine_between {w scores : PerComponent} (hw : Valid w)
    (h : ∀ c, Between 0.0 100.0 (scores.get c)) : Between 0.0 100.0 (combine w scores) := by
  apply Number.between_clamp (by decide)
  apply (Number.isNaN_of_le (zero_le_total _)).2
  simp only [List.mem_map, forall_exists_index, and_imp, forall_apply_eq_imp_iff₂]
  intro c _
  exact Number.zero_le_mul_of_isFinite (hw.zero_le c) (h c).above (hw.isFinite c)
    (isFinite_of_between (h c))

end Weights

namespace ScoredBidder

-- A scored bidder whose numbers are where they should be.
structure InRange (b : ScoredBidder) : Prop where
  components : ∀ c, Between 0.0 100.0 (b.components.get c)
  total : Between 0.0 100.0 b.total

theorem ofInput_inRange {settings : ScoringSettings} (h : settings.validate = .ok ())
    (bidder : String) (o : Opportunity) (i : ScoringInput) :
    (ofInput settings bidder o i).InRange where
  components := componentsOf_between settings bidder o i
  total := Weights.combine_between (Weights.valid_of_validate h)
    (componentsOf_between settings bidder o i)

theorem ofInput_confidence (settings : ScoringSettings) (bidder : String) (o : Opportunity)
    {i : ScoringInput} (h : i.confidence.isNaN = false) :
    Between 0.0 1.0 (ofInput settings bidder o i).confidence :=
  Number.between_clamp (by decide) h

-- Nothing is assumed of the snapshot but that its confidence is a number, where it matters.
theorem ofSnapshot_between (settings : ScoringSettings) (hvalid : settings.validate = .ok ())
    (bidder : String) (o : Opportunity) (x : Snapshot) :
    (∀ c, Between 0.0 100.0 ((ofSnapshot settings bidder o x).components.get c)) ∧
      Between 0.0 100.0 (ofSnapshot settings bidder o x).total ∧
      (x.confidence.isNaN = false →
        Between 0.0 1.0 (ofSnapshot settings bidder o x).confidence) := by
  unfold ofSnapshot
  have h := ofInput_inRange hvalid bidder o (.ofSnapshot x)
  refine ⟨h.components, h.total, fun hnumber => ?_⟩
  exact ofInput_confidence settings bidder o hnumber

-- Rates and amounts beyond all bounds, and a latency that is not a number.
def wildSnapshot : Snapshot :=
  { Snapshot.empty "acme" none 0 with
    winRate := -1.0 / 0.0
    bidRate := 0.0 / 0.0
    averageBid := 1.0 / 0.0
    p95LatencyMs := 0.0 / 0.0
    recentRequests := 50
    recentWinRate := 1.0 / 0.0
    lifetimeWinRate := 1.0 / 0.0
    confidence := 7.5 }

theorem ofSnapshot_between_wildSnapshot :
    let o := { Opportunity.atTime ⟨0, 0⟩ with floorPrice := some Money.zero }
    ScoringSettings.validate {} = .ok () ∧ wildSnapshot.confidence.isNaN = false ∧
      Between 0.0 100.0 ((ofSnapshot {} "acme" o wildSnapshot).components.get .recency) ∧
      Between 0.0 100.0 (ofSnapshot {} "acme" o wildSnapshot).total ∧
      Between 0.0 1.0 (ofSnapshot {} "acme" o wildSnapshot).confidence := by
  intro o
  have hvalid : ScoringSettings.validate {} = .ok () := Weights.validate_standard
  have hconfidence : wildSnapshot.confidence.isNaN = false := by decide
  obtain ⟨hcomponents, htotal, hconfident⟩ := ofSnapshot_between {} hvalid "acme" o wildSnapshot
  exact ⟨hvalid, hconfidence, hcomponents .recency, htotal, hconfident hconfidence⟩

end ScoredBidder
end DemandRouting
