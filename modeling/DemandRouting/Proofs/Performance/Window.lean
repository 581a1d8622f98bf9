import DemandRouting.Proofs.Performance.Buckets
import DemandRouting.Proofs.Performance.Headroom
import DemandRouting.Proofs.Performance.Percentile

namespace DemandRouting

namespace Event

def since (oldest : Int) (outcomes : List Event) : List Event :=
  outcomes.filter (oldest ≤ ·.minute)

theorem ofMinute_since {oldest m : Int} (h : oldest ≤ m) (outcomes : List Event) :
    ofMinute m (since oldest outcomes) = ofMinute m outcomes := by
  rw [ofMinute, ofMinute, since, List.filter_filter]
  apply List.filter_congr
  intro e _
  by_cases he : e.minute = m
  · simp [he, h]
  · simp [he]

theorem mem_minutes_since {oldest m : Int} {outcomes : List Event} :
    m ∈ minutes (since oldest outcomes) ↔ oldest ≤ m ∧ m ∈ outcomes.map minute := by
  simp only [mem_minutes, since, List.mem_map, List.mem_filter, decide_eq_true_eq]
  constructor
  · rintro ⟨e, ⟨he, hvisible⟩, rfl⟩
    exact ⟨hvisible, e, he, rfl⟩
  · rintro ⟨hvisible, e, he, rfl⟩
    exact ⟨e, ⟨he, hvisible⟩, rfl⟩

theorem sum_minutes {M : Type} [AddCommMonoid M] (amount : Event → Option Money)
    (weight : Money → M) (outcomes : List Event) :
    ((minutes outcomes).map fun m =>
        (((ofMinute m outcomes).filterMap amount).map weight).sum).sum =
      ((outcomes.filterMap amount).map weight).sum := by
  have hperm := ((flatMap_minutes_perm outcomes).filterMap amount).map weight
  rw [← hperm.sum_eq, List.filterMap_flatMap, List.map_flatMap, List.flatMap_def, List.sum_flatten,
    List.map_map]
  rfl

-- No addition rounds: neither those of the amounts of one minute, in the given order, nor those of
-- the minutes' sums, the earliest first.
def AddsUp (amount : Event → Option Money) (outcomes : List Event) : Prop :=
  ∃ subtotal : Int → Money,
    (∀ m ∈ minutes outcomes,
      Money.sumExactly? ((ofMinute m outcomes).filterMap amount) = some (subtotal m)) ∧
    ∃ total, Money.sumExactly? ((minutes outcomes).map subtotal) = some total

end Event

-- What is read of a window that shows these outcomes.
structure Recent.Shows (read : Recent) (outcomes : List Event) : Prop where
  counts : ∀ k : Counter, (k.get read.counters).toNat = k.total outcomes % 2 ^ 64
  bids : Event.AddsUp Event.bid? outcomes →
    read.counters.totalBidValue.value = ((outcomes.filterMap Event.bid?).map Money.value).sum
  wins : Event.AddsUp Event.price? outcomes →
    read.counters.totalWinValue.value = ((outcomes.filterMap Event.price?).map Money.value).sum
  p95 : read.p95LatencyMs = Percentile.p95 (outcomes.filterMap Event.latency?)
  nearestRank : Percentile.IsNearestRank (outcomes.filterMap Event.latency?) read.p95LatencyMs

namespace Bucket

section Reading

variable {oldest : Int} {buckets : List Bucket} {outcomes : List Event}

theorem Reflects.visible_minutes (h : Reflects oldest buckets outcomes) :
    (visible oldest buckets).map (·.minute) = Event.minutes (Event.since oldest outcomes) := by
  have hsorted : ((visible oldest buckets).map (·.minute)).Pairwise (· < ·) :=
    List.pairwise_map.mpr (List.Pairwise.filter _ h.sorted)
  apply hsorted.eq_of_mem_iff (Event.minutes_pairwise _)
  intro m
  rw [Event.mem_minutes_since, List.mem_map]
  constructor
  · rintro ⟨b, hb, rfl⟩
    obtain ⟨hmem, hvisible⟩ := mem_visible.mp hb
    exact ⟨hvisible, (h.minutes _ hvisible).mp (List.mem_map.mpr ⟨b, hmem, rfl⟩)⟩
  · rintro ⟨hvisible, hm⟩
    obtain ⟨b, hb, rfl⟩ := List.mem_map.mp ((h.minutes m hvisible).mpr hm)
    exact ⟨b, mem_visible.mpr ⟨hb, hvisible⟩, rfl⟩

theorem Reflects.visible_holds (h : Reflects oldest buckets outcomes) :
    ∀ b ∈ visible oldest buckets,
      b.Holds (Event.ofMinute b.minute (Event.since oldest outcomes)) := by
  intro b hb
  obtain ⟨hmem, hvisible⟩ := mem_visible.mp hb
  rw [Event.ofMinute_since hvisible]
  exact h.holds b hmem hvisible

theorem Reflects.visible_perm (h : Reflects oldest buckets outcomes) :
    ((visible oldest buckets).flatMap fun b =>
        Event.ofMinute b.minute (Event.since oldest outcomes)).Perm
      (Event.since oldest outcomes) := by
  have hperm := Event.flatMap_minutes_perm (Event.since oldest outcomes)
  rw [← h.visible_minutes, List.flatMap_map] at hperm
  exact hperm

theorem Reflects.latencies_perm (h : Reflects oldest buckets outcomes) :
    ((visible oldest buckets).flatMap (·.latencies)).Perm
      ((Event.since oldest outcomes).filterMap Event.latency?) := by
  have hperm := h.visible_perm.filterMap Event.latency?
  rw [List.filterMap_flatMap] at hperm
  refine (List.Perm.flatMap_left _ fun b hb => ?_).trans hperm
  rw [(h.visible_holds b hb).latencies]
  exact List.reverse_perm _

theorem Reflects.reportedP95 (h : Reflects oldest buckets outcomes) :
    (visible oldest buckets).filterMap (·.reportedP95) = [] :=
  List.filterMap_eq_nil_iff.mpr fun b hb => (h.visible_holds b hb).unseeded

-- A sum of money over the visible buckets, where adding up does not round.
theorem Reflects.sum?_amounts (h : Reflects oldest buckets outcomes)
    {amount : Event → Option Money} {field : Counters → Money}
    (hfield : ∀ (c : Counters) (es : List Event), c.Tallies es →
      Money.sum? (es.filterMap amount) = some (field c))
    (hexact : Event.AddsUp amount (Event.since oldest outcomes)) :
    ∃ total, Money.sum? (((visible oldest buckets).map (·.counters)).map field) =
        some total ∧
      total.value = (((Event.since oldest outcomes).filterMap amount).map Money.value).sum := by
  obtain ⟨subtotal, hsubtotal, total, htotal⟩ := hexact
  have hfields : ((visible oldest buckets).map (·.counters)).map field =
      (Event.minutes (Event.since oldest outcomes)).map subtotal := by
    rw [← h.visible_minutes, List.map_map, List.map_map]
    apply List.map_congr_left
    intro b hb
    have hmem : b.minute ∈ Event.minutes (Event.since oldest outcomes) := by
      rw [← h.visible_minutes]
      exact List.mem_map.mpr ⟨b, hb, rfl⟩
    have hsum := hfield b.counters _ (h.visible_holds b hb).counters
    rw [(Money.sum?_of_sumExactly? (hsubtotal b.minute hmem)).1] at hsum
    exact (Option.some_inj.mp hsum).symm
  obtain ⟨hsum, hvalue⟩ := Money.sum?_of_sumExactly? htotal
  refine ⟨total, by rw [hfields, hsum], ?_⟩
  rw [hvalue, ← Event.sum_minutes amount Money.value, List.map_map]
  congr 1
  apply List.map_congr_left
  intro m hm
  exact (Money.sum?_of_sumExactly? (hsubtotal m hm)).2

-- The percentile of the visible latencies; without any, the greatest one that was seeded.
def shownP95 (oldest : Int) (buckets : List Bucket) : Float :=
  let latencies := (visible oldest buckets).flatMap (·.latencies)
  if latencies.isEmpty then ((visible oldest buckets).filterMap (·.reportedP95)).foldl greater 0.0
  else Percentile.p95 latencies

theorem read?_eq (oldest : Int) (buckets : List Bucket) :
    read? oldest buckets =
      (Counters.merge? ((visible oldest buckets).map (·.counters))).map
        (⟨·, shownP95 oldest buckets⟩) := by
  rw [Option.map_eq_bind, Counters.merge?, List.foldlM_map]
  rfl

theorem Reflects.shownP95_eq (h : Reflects oldest buckets outcomes) :
    shownP95 oldest buckets =
      Percentile.p95 ((Event.since oldest outcomes).filterMap Event.latency?) := by
  rw [← Percentile.p95_perm h.latencies_perm]
  simp only [shownP95]
  split
  · rename_i hempty
    rw [List.isEmpty_iff.mp hempty, h.reportedP95, Percentile.p95_nil, List.foldl_nil]
  · rfl

theorem Reflects.shows (h : Reflects oldest buckets outcomes) {r : Recent}
    (hread : read? oldest buckets = some r) : r.Shows (Event.since oldest outcomes) := by
  rw [read?_eq] at hread
  obtain ⟨counters, hmerge, rfl⟩ := Option.map_eq_some_iff.mp hread
  obtain ⟨hbids, hwins⟩ := Counters.merge?_amounts hmerge
  refine ⟨fun k => ?_, fun hexact => ?_, fun hexact => ?_, h.shownP95_eq, ?_⟩
  · have hgroups := fun b hb => (h.visible_holds b hb).counters
    rw [Counters.merge?_counts hgroups hmerge k, k.total_perm h.visible_perm, UInt64.toNat_ofNat']
  · obtain ⟨total, htotal, hvalue⟩ := h.sum?_amounts (fun c es hc => hc.bids) hexact
    obtain rfl := Option.some_inj.mp (hbids.symm.trans htotal)
    exact hvalue
  · obtain ⟨total, htotal, hvalue⟩ := h.sum?_amounts (fun c es hc => hc.wins) hexact
    obtain rfl := Option.some_inj.mp (hwins.symm.trans htotal)
    exact hvalue
  · rw [h.shownP95_eq]
    exact Percentile.p95_isNearestRank _

end Reading

end Bucket

namespace Timestamp

-- Order in time; a leap second comes after the rest of its second.
instance : LE Timestamp where
  le a b := a.second < b.second ∨ a.second = b.second ∧ a.nano ≤ b.nano

instance (a b : Timestamp) : Decidable (a ≤ b) :=
  inferInstanceAs (Decidable (a.second < b.second ∨ a.second = b.second ∧ a.nano ≤ b.nano))

-- Only leaving a leap second backwards counts from the second after it.
theorem second_addSeconds (t : Timestamp) (n : Int) :
    (t.addSeconds n).second = t.second + n + if billion ≤ t.nano ∧ n < 0 then 1 else 0 := by
  unfold addSeconds
  by_cases hleap : billion ≤ t.nano
  · rcases Int.lt_trichotomy n 0 with hn | rfl | hn
    · rw [if_neg (by omega), if_neg (by omega), if_pos ⟨hleap, hn⟩]
      simp only
      omega
    · simp
    · rw [if_neg (by omega), if_pos hn, if_neg (by omega), Int.add_zero]
  · rw [if_pos (by omega), if_neg (by omega), Int.add_zero]

theorem second_addSeconds_mono {a b : Timestamp} (h : a ≤ b) (n : Int) :
    (a.addSeconds n).second ≤ (b.addSeconds n).second := by
  have h : a.second < b.second ∨ a.second = b.second ∧ a.nano ≤ b.nano := h
  rw [second_addSeconds, second_addSeconds]
  split <;> split <;> omega

theorem minute_mono {a b : Timestamp} (h : a.second ≤ b.second) : a.minute ≤ b.minute := by
  rw [minute, minute, Int.fdiv_eq_ediv_of_nonneg _ (by omega),
    Int.fdiv_eq_ediv_of_nonneg _ (by omega)]
  omega

end Timestamp

namespace Ledger

theorem oldestMinute_mono {now now' : Timestamp} (h : now ≤ now') (window : Int) :
    oldestMinute now window ≤ oldestMinute now' window :=
  Timestamp.minute_mono (Timestamp.second_addSeconds_mono h (-window))

-- What one more recording does to the buckets of a slice.
theorem reflects_record {now : Timestamp} {window : Int} {l l' : Ledger} {r : Recording}
    {history : List Recording} {s : SliceId} {oldest : Int}
    (h : Bucket.Reflects oldest (l.buckets s) (seen s history))
    (hle : oldest ≤ oldestMinute now window)
    (hrecord : l.record? now window r.event = some l') :
    Bucket.Reflects (oldestMinute now window) (l'.buckets s) (seen s (history ++ [r])) := by
  by_cases hs : s.Covers r.event
  · rw [seen_append_covered hs]
    exact h.update hle (record?_covered hrecord hs).2
  · rw [seen_append_other hs, (record?_other hrecord hs).2]
    exact h.mono hle

-- A clock that has not gone back up to now had not gone back when the last outcome was recorded.
theorem clock_before {history : List Recording} {r : Recording} {now : Timestamp}
    (h : ((history ++ [r]).map (·.now) ++ [now]).Pairwise (· ≤ ·)) :
    (history.map (·.now) ++ [r.now]).Pairwise (· ≤ ·) ∧ r.now ≤ now := by
  rw [List.map_append, List.map_singleton, List.pairwise_append] at h
  obtain ⟨hclock, -, hlast⟩ := h
  exact ⟨hclock, hlast r.now (by simp) now (List.mem_singleton.mpr rfl)⟩

-- The cutoff of the last recording is no later than that of any reader after it.
theorem reflects_replay {window : Int} {history : List Recording} {l : Ledger}
    (hreplay : replay window history = some l) {now : Timestamp}
    (hclock : (history.map (·.now) ++ [now]).Pairwise (· ≤ ·)) (s : SliceId) :
    Bucket.Reflects (oldestMinute now window) (l.buckets s) (seen s history) := by
  have hrun := replay_induction (P := fun history l => ∀ now : Timestamp,
    (history.map (·.now) ++ [now]).Pairwise (· ≤ ·) →
      Bucket.Reflects (oldestMinute now window) (l.buckets s) (seen s history))
    (fun now _ => Bucket.reflects_nil _)
    (fun history r before after h hrecord now hclock => by
      obtain ⟨hbefore, hle⟩ := clock_before hclock
      have hreflects := reflects_record (h r.now hbefore) (Int.le_refl _) hrecord
      exact hreflects.mono (oldestMinute_mono hle window))
    hreplay
  exact hrun now hclock

-- The outcomes that a window reaches, of all that were ever recorded of a slice.
def shown (now : Timestamp) (window : Int) (s : SliceId) (history : List Recording) : List Event :=
  Event.since (oldestMinute now window) (seen s history)

end Ledger
end DemandRouting
