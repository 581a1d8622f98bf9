import DemandRouting.Sources.Gather
import Mathlib.Data.List.Nodup

namespace DemandRouting.Snapshot

-- By the time of cancellation, each read has been answered or given up.
def ReadsOver (settings : BlendSettings) (sources : Sources) (bidder : String)
    (o : Option Opportunity) (cancel : Option Nat) : Prop :=
  ∀ c ∈ cancel, ∀ key ∈ levels o,
    ((sources.recent ⟨bidder, key⟩).within settings.fetchTimeoutMs).delay ≤ c ∧
      ((sources.lifetime ⟨bidder, key⟩).within settings.fetchTimeoutMs).delay ≤ c

theorem foldl_max_le_iff {delays : List Nat} {m c : Nat} :
    delays.foldl max m ≤ c ↔ m ≤ c ∧ ∀ d ∈ delays, d ≤ c := by
  induction delays generalizing m with
  | nil => simp
  | cons d delays ih => rw [List.foldl_cons, ih, Nat.max_le, List.forall_mem_cons, and_assoc]

-- A bidder comes in when the last of its reads is over.
theorem inTime_iff {settings : BlendSettings} {sources : Sources} {bidder : String}
    {o : Option Opportunity} {cancel : Option Nat} (place : Nat) :
    (Arrival.mk place (gather settings sources bidder o)).inTime cancel = true ↔
      ReadsOver settings sources bidder o cancel := by
  cases cancel with
  | none => simp [Arrival.inTime, ReadsOver]
  | some c =>
    simp only [Arrival.inTime, Option.all_some, decide_eq_true_eq, gather, foldl_max_le_iff,
      Nat.zero_le, true_and, List.map_map, List.forall_mem_map, Function.comp_apply, readLevel,
      Nat.max_le, ReadsOver, Option.mem_some_iff, forall_eq']

-- An order in which arrivals may come in: each comes once, and no later one before an earlier one.
structure ComesIn (arrivals order : List Arrival) : Prop where
  perm : order.Perm arrivals
  timely : order.Pairwise fun a b => a.gathered.delay ≤ b.gathered.delay

section TakeIn

variable {cancel : Option Nat} {slots : List (Option Snapshot)} {order : List Arrival}

theorem inTime_of_le {a b : Arrival} (h : b.inTime cancel)
    (hle : a.gathered.delay ≤ b.gathered.delay) : a.inTime cancel := by
  cases cancel with
  | none => rfl
  | some c =>
    simp only [Arrival.inTime, Option.all_some, decide_eq_true_eq] at h ⊢
    exact Nat.le_trans hle h

-- A slot is filled by arrivals at its place only.
theorem takeIn_other {place : Nat}
    (h : ∀ a ∈ order, a.inTime cancel → a.place ≠ place) :
    (takeIn cancel slots order)[place]? = slots[place]? := by
  induction order generalizing slots with
  | nil => rfl
  | cons a rest ih =>
    obtain ⟨hfirst, hrest⟩ := List.forall_mem_cons.mp h
    unfold takeIn
    split
    · rename_i hin
      rw [ih hrest, List.getElem?_set_ne (hfirst hin)]
    · rfl

-- An arrival in time is put at its place, and stays there since no other has the same place. Those
-- before it are in time as well, so that the loop gets to it.
theorem takeIn_inTime (hplaces : (order.map (·.place)).Nodup)
    (htimely : order.Pairwise fun a b => a.gathered.delay ≤ b.gathered.delay) {a : Arrival}
    (ha : a ∈ order) (hin : a.inTime cancel) (hslot : a.place < slots.length) :
    (takeIn cancel slots order)[a.place]? = some (some a.gathered.snapshot) := by
  induction order generalizing slots with
  | nil => exact absurd ha List.not_mem_nil
  | cons first rest ih =>
    rw [List.map_cons, List.nodup_cons] at hplaces
    obtain ⟨hnew, hplaces⟩ := hplaces
    obtain ⟨hearliest, htimely⟩ := List.pairwise_cons.mp htimely
    unfold takeIn
    rcases List.mem_cons.mp ha with rfl | ha
    · rw [if_pos hin, takeIn_other, List.getElem?_set_self hslot]
      exact fun b hb _ heq => hnew (heq ▸ List.mem_map_of_mem hb)
    · rw [if_pos (inTime_of_le hin (hearliest a ha))]
      exact ih hplaces htimely ha (by rwa [List.length_set])

end TakeIn

section Arrivals

variable {settings : BlendSettings} {sources : Nat → Sources} {bidders : List String}
  {o : Option Opportunity} {cancel : Option Nat} {order : List Arrival}

theorem mem_arrivals {a : Arrival} :
    a ∈ arrivals settings sources bidders o ↔ ∃ bidder, bidders[a.place]? = some bidder ∧
      a.gathered = gather settings (sources a.place) bidder o := by
  rw [arrivals, List.mem_iff_getElem?]
  simp only [List.getElem?_mapIdx, Option.map_eq_some_iff]
  constructor
  · rintro ⟨place, bidder, hbidder, rfl⟩
    exact ⟨bidder, hbidder, rfl⟩
  · rintro ⟨bidder, hbidder, hgathered⟩
    exact ⟨a.place, bidder, hbidder, by rw [← hgathered]⟩

theorem places_arrivals :
    (arrivals settings sources bidders o).map (·.place) = List.range bidders.length := by
  apply List.ext_getElem <;> simp [arrivals]

theorem ComesIn.nodup_places (h : ComesIn (arrivals settings sources bidders o) order) :
    (order.map (·.place)).Nodup := by
  rw [(h.perm.map _).nodup_iff, places_arrivals]
  exact List.nodup_range

-- Each place has the snapshot of its own bidder if that came in time, and an empty one otherwise.
theorem collect_eq (h : ComesIn (arrivals settings sources bidders o) order) :
    collect bidders o cancel order = bidders.mapIdx fun place bidder =>
      let g := gather settings (sources place) bidder o
      if (Arrival.mk place g).inTime cancel then g.snapshot
      else empty bidder (o.map SliceKey.ofOpportunity) 0 := by
  apply List.ext_getElem?
  intro place
  rw [collect, List.getElem?_zipWith, List.getElem?_mapIdx]
  cases hbidder : bidders[place]? with
  | none => cases (takeIn cancel (bidders.map fun _ => none) order)[place]? <;> rfl
  | some bidder =>
    have hplace : place < (bidders.map fun _ => (none : Option Snapshot)).length := by
      rw [List.length_map]
      exact (List.getElem?_eq_some_iff.mp hbidder).1
    by_cases hin : (Arrival.mk place (gather settings (sources place) bidder o)).inTime cancel
    · have hmem : Arrival.mk place (gather settings (sources place) bidder o) ∈ order :=
        h.perm.mem_iff.mpr (mem_arrivals.mpr ⟨bidder, hbidder, rfl⟩)
      rw [takeIn_inTime h.nodup_places h.timely hmem hin hplace]
      simp [hin]
    · -- the only arrival at this place is too late
      have hlate : ∀ a ∈ order, a.inTime cancel → a.place ≠ place := by
        rintro ⟨place', g⟩ ha hin' heq
        obtain rfl : place' = place := heq
        obtain ⟨bidder', hbidder', hgathered⟩ := mem_arrivals.mp (h.perm.mem_iff.mp ha)
        obtain rfl := Option.some_inj.mp (hbidder.symm.trans hbidder')
        obtain rfl : g = gather settings (sources place') bidder o := hgathered
        exact hin hin'
      have hslot : (bidders.map fun _ => (none : Option Snapshot))[place]? = some none := by
        rw [List.getElem?_map, hbidder, Option.map_some]
      rw [takeIn_other hlate, hslot]
      simp [hin]

theorem comesIn_mergeSort (settings : BlendSettings) (sources : Nat → Sources)
    (bidders : List String) (o : Option Opportunity) :
    ComesIn (arrivals settings sources bidders o)
      ((arrivals settings sources bidders o).mergeSort Arrival.notAfter) where
  perm := List.mergeSort_perm _ _
  timely := by
    apply List.Pairwise.imp of_decide_eq_true
    apply List.pairwise_mergeSort
    · intro a b c hab hbc
      exact decide_eq_true (Nat.le_trans (of_decide_eq_true hab) (of_decide_eq_true hbc))
    · intro a b
      rw [Bool.or_eq_true, decide_eq_true_eq, decide_eq_true_eq]
      exact Nat.le_total _ _

end Arrivals

-- Without cancellation everyone comes in.
theorem gatherAll_none (settings : BlendSettings) (sources : Sources) (bidders : List String)
    (o : Option Opportunity) :
    gatherAll settings sources bidders o none =
      bidders.map fun bidder => (gather settings sources bidder o).snapshot := by
  rw [gatherAll, gatherEach, collect_eq (comesIn_mergeSort _ _ _ _)]
  apply List.ext_getElem?
  intro place
  rw [List.getElem?_mapIdx, List.getElem?_map]
  rfl

-- What is kept and what is given up when gathering is cancelled.
structure Cancels (settings : BlendSettings) (sources : Nat → Sources) (bidders : List String)
    (o : Option Opportunity) (cancel : Option Nat) (snapshots : List Snapshot) : Prop where
  length : snapshots.length = bidders.length
  -- Bidders that are done by then are as they are when gathered for alone.
  finished : ∀ (place : Nat) (bidder : String), bidders[place]? = some bidder →
    ReadsOver settings (sources place) bidder o cancel →
      snapshots[place]? = some (gather settings (sources place) bidder o).snapshot
  -- Nothing is known of the others.
  outstanding : ∀ (place : Nat) (bidder : String), bidders[place]? = some bidder →
    ¬ ReadsOver settings (sources place) bidder o cancel →
      snapshots[place]? = some (empty bidder (o.map SliceKey.ofOpportunity) 0)

-- What finished bidders have come to is kept, and no snapshot is made up, whatever the order in
-- which the bidders come in.
theorem gatherEach_cancelled (settings : BlendSettings) (sources : Nat → Sources)
    (bidders : List String) (o : Option Opportunity) (cancel : Option Nat) :
    Cancels settings sources bidders o cancel (gatherEach settings sources bidders o cancel) ∧
      (∀ order, ComesIn (arrivals settings sources bidders o) order →
        collect bidders o cancel order = gatherEach settings sources bidders o cancel) ∧
      ∀ common, gatherAll settings common bidders o none =
        bidders.map fun bidder => (gather settings common bidder o).snapshot := by
  have hown := comesIn_mergeSort settings sources bidders o
  refine ⟨?_, fun order horder => ?_, fun common => gatherAll_none settings common bidders o⟩
  · rw [gatherEach, collect_eq hown]
    constructor
    case length => exact List.length_mapIdx
    case finished =>
      intro place bidder hbidder hover
      rw [List.getElem?_mapIdx, hbidder, Option.map_some, if_pos ((inTime_iff place).mpr hover)]
    case outstanding =>
      intro place bidder hbidder hover
      rw [List.getElem?_mapIdx, hbidder, Option.map_some, if_neg (mt (inTime_iff place).mp hover)]
  · rw [gatherEach, collect_eq horder, collect_eq hown]

-- Sources that keep the bidder at each place waiting for so many milliseconds.
def pausing (delays : List Nat) (place : Nat) : Sources where
  recent _ := ⟨.ok { counters := { requests := 200 } }, delays.getD place 0⟩
  lifetime _ := .immediate {}

-- The second bidder comes first, and the third place, which names the first bidder again, is still
-- out when gathering is cancelled.
theorem gatherEach_cancelled_repeatedBidder :
    let settings : BlendSettings := { fetchTimeoutMs := 100 }
    let sources := pausing [30, 10, 50]
    let bidders := ["alpha", "beta", "alpha"]
    ∃ order, ComesIn (arrivals settings sources bidders none) order ∧
      order.map (·.place) = [1, 0, 2] ∧
      (collect bidders none (some 40) order)[0]? =
        some (gather settings (sources 0) "alpha" none).snapshot ∧
      (collect bidders none (some 40) order)[2]? = some (empty "alpha" none 0) := by
  intro settings sources bidders
  have hcomes : ComesIn (arrivals settings sources bidders none)
      [⟨1, gather settings (sources 1) "beta" none⟩, ⟨0, gather settings (sources 0) "alpha" none⟩,
        ⟨2, gather settings (sources 2) "alpha" none⟩] :=
    ⟨.swap _ _ _, by decide⟩
  obtain ⟨hcancels, hany, -⟩ := gatherEach_cancelled settings sources bidders none (some 40)
  refine ⟨_, hcomes, rfl, ?_, ?_⟩
  · rw [hany _ hcomes]
    exact hcancels.finished 0 "alpha" rfl ((inTime_iff 0).mp (by decide))
  · rw [hany _ hcomes]
    exact hcancels.outstanding 2 "alpha" rfl (mt (inTime_iff 2).mpr (by decide))

end DemandRouting.Snapshot
