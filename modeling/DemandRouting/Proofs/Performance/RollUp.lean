import DemandRouting.Proofs.Performance.Headroom
import DemandRouting.Proofs.Performance.Tally

namespace DemandRouting

namespace Event

theorem clearances_append (es es' : List Event) :
    clearances (es ++ es') = clearances es + clearances es' := by
  rw [clearances, List.map_append, List.sum_append]
  rfl

end Event

-- Totals of exactly these outcomes.
structure LifetimeEntry.Tallies (entry : LifetimeEntry) (outcomes : List Event) : Prop where
  counters : entry.totals.counters.Tallies outcomes
  clearances : entry.totals.floorClearances = .ofNat (Event.clearances outcomes)

namespace LifetimeEntry

theorem tallies_nil : Tallies {} [] where
  counters := Counters.tallies_nil
  clearances := rfl

theorem Tallies.add {entry entry' : LifetimeEntry} {es : List Event} {e : Event}
    (h : entry.Tallies es) (hadd : entry.add? e = some entry') : entry'.Tallies (es ++ [e]) := by
  obtain ⟨counters, hcounters, hadd⟩ := Option.bind_eq_some_iff.mp hadd
  obtain rfl := Option.some_inj.mp hadd
  refine ⟨h.counters.add hcounters, ?_⟩
  have hsingle : Event.clearances [e] = e.clearance.toNat := by simp [Event.clearances]
  rw [h.clearances, Event.clearances_append, hsingle, UInt64.ofNat_add, UInt64.ofNat_toNat]

-- Reading puts in a percentile and leaves the totals alone.
theorem read_totals (entry : LifetimeEntry) :
    entry.read.counters = entry.totals.counters ∧
      entry.read.floorClearances = entry.totals.floorClearances := by
  unfold read
  split <;> exact ⟨rfl, rfl⟩

end LifetimeEntry

namespace Ledger

-- What one more recording does to the totals of a slice.
theorem tallies_record {now : Timestamp} {window : Int} {l l' : Ledger} {r : Recording}
    {history : List Recording} {s : SliceId} (h : (l.entry s).Tallies (seen s history))
    (hrecord : l.record? now window r.event = some l') :
    (l'.entry s).Tallies (seen s (history ++ [r])) := by
  by_cases hs : s.Covers r.event
  · rw [seen_append_covered hs]
    exact h.add (record?_covered hrecord hs).1
  · rw [seen_append_other hs, (record?_other hrecord hs).1]
    exact h

theorem tallies_replay {window : Int} {history : List Recording} {l : Ledger}
    (hreplay : replay window history = some l) (s : SliceId) :
    (l.entry s).Tallies (seen s history) := by
  apply replay_induction (P := fun history l => (l.entry s).Tallies (seen s history))
    LifetimeEntry.tallies_nil _ hreplay
  intro history r before after h hrecord
  exact tallies_record h hrecord

end Ledger
end DemandRouting
