import DemandRouting.Proofs.Performance.History
import DemandRouting.Proofs.Performance.Percentile
import Mathlib.Data.List.DropRight

namespace DemandRouting

open Percentile

namespace Operation

def seed? (s : SliceId) : Operation → Option Lifetime
  | .seedLifetime s' totals => if s' = s then some totals else none
  | _ => none

def latency? (s : SliceId) : Operation → Option UInt64
  | .record r => if s.Covers r.event then r.event.latency? else none
  | _ => none

end Operation

namespace Ledger

-- All latencies recorded into a slice since it was last seeded, in the order of recording.
def recorded (s : SliceId) (operations : List Operation) : List UInt64 :=
  (operations.rtakeWhile fun op => (op.seed? s).isNone).filterMap (·.latency? s)

-- The percentile that a slice was last seeded with, zero if it never was.
def seededP95 (s : SliceId) (operations : List Operation) : Float :=
  ((operations.filterMap (·.seed? s)).getLast?.map (·.p95LatencyMs)).getD 0.0

section Append

variable {s : SliceId} {operations : List Operation} {op : Operation}

theorem recorded_append (h : op.seed? s = none) :
    recorded s (operations ++ [op]) = recorded s operations ++ (op.latency? s).toList := by
  rw [recorded, List.rtakeWhile_concat_pos _ _ _ (by rw [h]; rfl), List.filterMap_append]
  cases hlatency : op.latency? s <;> simp [recorded, hlatency]

theorem recorded_seeded {totals : Lifetime} (h : op.seed? s = some totals) :
    recorded s (operations ++ [op]) = [] := by
  rw [recorded, List.rtakeWhile_concat_neg _ _ _ (by rw [h]; simp), List.filterMap_nil]

theorem seededP95_append (h : op.seed? s = none) :
    seededP95 s (operations ++ [op]) = seededP95 s operations := by
  simp [seededP95, h]

theorem seededP95_seeded {totals : Lifetime} (h : op.seed? s = some totals) :
    seededP95 s (operations ++ [op]) = totals.p95LatencyMs := by
  simp [seededP95, h]

end Append

-- What one more latency leaves of the others, at most one of which has to go.
def keepLatest (latency : Option UInt64) (latencies : List UInt64) : List UInt64 :=
  (latency.toList ++ latencies).take LifetimeEntry.maxLatencies

end Ledger

theorem LifetimeEntry.add?_latencies {entry entry' : LifetimeEntry} {e : Event}
    (h : entry.add? e = some entry') :
    entry'.latencies = Ledger.keepLatest e.latency? entry.latencies ∧
      entry'.totals.p95LatencyMs = entry.totals.p95LatencyMs := by
  obtain ⟨counters, -, h⟩ := Option.bind_eq_some_iff.mp h
  obtain rfl := Option.some_inj.mp h
  exact ⟨rfl, rfl⟩

namespace Ledger

-- Seeds of recent outcomes and of revenue leave the lifetime totals alone.
theorem perform?_entry {window : Int} {l l' : Ledger} {op : Operation}
    (h : l.perform? window op = some l') (s : SliceId) :
    (∃ totals, op.seed? s = some totals ∧ l'.entry s = { totals }) ∨
      op.seed? s = none ∧ op.latency? s = none ∧ l'.entry s = l.entry s ∨
      op.seed? s = none ∧
        (l'.entry s).latencies = keepLatest (op.latency? s) (l.entry s).latencies ∧
        (l'.entry s).totals.p95LatencyMs = (l.entry s).totals.p95LatencyMs := by
  cases op with
  | record r =>
    by_cases hcovers : s.Covers r.event
    · have hadded := LifetimeEntry.add?_latencies (record?_covered h hcovers).1
      have hlatency : (Operation.record r).latency? s = r.event.latency? := if_pos hcovers
      rw [← hlatency] at hadded
      exact .inr (.inr ⟨rfl, hadded⟩)
    · exact .inr (.inl ⟨rfl, if_neg hcovers, (record?_other h hcovers).1⟩)
  | seedLifetime s' totals =>
    obtain rfl := Option.some_inj.mp h
    by_cases hs : s' = s
    · subst hs
      exact .inl ⟨totals, if_pos rfl, by simp [entry, seedLifetime, Assoc.getD]⟩
    · exact .inr (.inl ⟨if_neg hs, rfl, by simp [entry, seedLifetime, Assoc.getD, hs]⟩)
  | seedRecent now s' totals =>
    obtain rfl := Option.some_inj.mp h
    exact .inr (.inl ⟨rfl, rfl, rfl⟩)
  | seedRevenue publisher bidder amount =>
    obtain ⟨total, -, h⟩ := Option.bind_eq_some_iff.mp h
    obtain rfl := Option.some_inj.mp h
    exact .inr (.inl ⟨rfl, rfl, rfl⟩)

-- An entry keeps the last of the latencies that were recorded, the latest first, and the percentile
-- that was seeded.
structure KeepsLatest (recorded : List UInt64) (seeded : Float) (entry : LifetimeEntry) :
    Prop where
  latencies : entry.latencies = recorded.reverse.take LifetimeEntry.maxLatencies
  seeded : entry.totals.p95LatencyMs = seeded

theorem keepLatest_take (latency : Option UInt64) (recorded : List UInt64) :
    keepLatest latency (recorded.reverse.take LifetimeEntry.maxLatencies) =
      (recorded ++ latency.toList).reverse.take LifetimeEntry.maxLatencies := by
  have hsingle : latency.toList.reverse = latency.toList := by cases latency <;> rfl
  rw [keepLatest, List.reverse_append, hsingle, List.take_append, List.take_append, List.take_take,
    Nat.min_eq_left (Nat.sub_le _ _)]

theorem keepsLatest_perform? {window : Int} {operations : List Operation} {op : Operation}
    {l l' : Ledger} {s : SliceId}
    (hkeeps : KeepsLatest (recorded s operations) (seededP95 s operations) (l.entry s))
    (h : l.perform? window op = some l') :
    KeepsLatest (recorded s (operations ++ [op])) (seededP95 s (operations ++ [op]))
      (l'.entry s) := by
  rcases perform?_entry h s with ⟨totals, hseed, hentry⟩ | ⟨hseed, hlatency, hentry⟩ |
    ⟨hseed, hlatencies, hp95⟩
  · rw [recorded_seeded hseed, seededP95_seeded hseed, hentry]
    exact ⟨rfl, rfl⟩
  · rw [recorded_append hseed, seededP95_append hseed, hentry, hlatency, Option.toList_none,
      List.append_nil]
    exact hkeeps
  · rw [recorded_append hseed, seededP95_append hseed]
    constructor
    · rw [hlatencies, hkeeps.latencies, keepLatest_take]
    · rw [hp95, hkeeps.seeded]

theorem keepsLatest_run {window : Int} {operations : List Operation} {l : Ledger}
    (hrun : run? window operations = some l) (s : SliceId) :
    KeepsLatest (recorded s operations) (seededP95 s operations) (l.entry s) :=
  run?_induction (P := fun operations l =>
      KeepsLatest (recorded s operations) (seededP95 s operations) (l.entry s))
    ⟨rfl, rfl⟩ (fun _ _ _ _ hkeeps h => keepsLatest_perform? hkeeps h) hrun

-- The percentile of the last of the latencies that were recorded, and without any the one that was
-- seeded.
theorem KeepsLatest.p95_read {recorded : List UInt64} {seeded : Float} {entry : LifetimeEntry}
    (h : KeepsLatest recorded seeded entry) :
    entry.read.p95LatencyMs =
      if recorded = [] then seeded else p95 (recorded.rtake LifetimeEntry.maxLatencies) := by
  have hempty : entry.latencies.isEmpty = true ↔ recorded = [] := by
    rw [h.latencies]
    simp [LifetimeEntry.maxLatencies]
  by_cases hrecorded : recorded = []
  · rw [if_pos hrecorded, LifetimeEntry.read, if_pos (hempty.mpr hrecorded), h.seeded]
  · have hperm : entry.latencies.Perm (recorded.rtake LifetimeEntry.maxLatencies) := by
      rw [h.latencies, List.rtake_eq_reverse_take_reverse]
      exact (List.reverse_perm _).symm
    rw [if_neg hrecorded, LifetimeEntry.read, if_neg (mt hempty.mp hrecorded)]
    exact p95_perm hperm

theorem exists_isP95_rtake {recorded : List UInt64} (h : recorded ≠ []) :
    ∃ x, IsP95 (recorded.rtake LifetimeEntry.maxLatencies) x ∧
      p95 (recorded.rtake LifetimeEntry.maxLatencies) = x.toFloat := by
  have hlength : (recorded.rtake LifetimeEntry.maxLatencies).length =
      min LifetimeEntry.maxLatencies recorded.length := by
    rw [List.rtake_eq_reverse_take_reverse, List.length_reverse, List.length_take,
      List.length_reverse]
  have hpos := List.length_pos_iff.mpr h
  have hmax : LifetimeEntry.maxLatencies = 1024 := rfl
  have hne : recorded.rtake LifetimeEntry.maxLatencies ≠ [] := by
    rw [← List.length_pos_iff]
    omega
  obtain ⟨x, hranked, hx⟩ := (p95_isNearestRank _).ranked hne
  exact ⟨x, hranked.isP95 (by omega), hx⟩

-- After any run, each slice keeps the last 1024 latencies, or all if there are fewer, of the
-- requests recorded into it since it was last seeded, and shows their percentile. Without any it
-- shows the percentile that was seeded. No win changes that, and no request of other slices.
theorem run?_latestLatencies {window : Int} {operations : List Operation} {l : Ledger}
    (hrun : run? window operations = some l) (s : SliceId) :
    (l.entry s).latencies.reverse = (recorded s operations).rtake 1024 ∧
      (recorded s operations ≠ [] → ∃ x, IsP95 ((recorded s operations).rtake 1024) x ∧
        (l.readLifetime s).p95LatencyMs = x.toFloat) ∧
      (recorded s operations = [] →
        (l.readLifetime s).p95LatencyMs = seededP95 s operations) ∧
      ∀ now e l', l.record? now window e = some l' → ((∃ o, e = .win o) ∨ ¬ s.Covers e) →
        (l'.entry s).latencies = (l.entry s).latencies ∧
          (l'.readLifetime s).p95LatencyMs = (l.readLifetime s).p95LatencyMs := by
  have hkeeps := keepsLatest_run hrun s
  have hread : (l.readLifetime s).p95LatencyMs = _ := hkeeps.p95_read
  refine ⟨?_, fun hsome => ?_, fun hnone => ?_, fun now e l' h hother => ?_⟩
  · rw [hkeeps.latencies, List.rtake_eq_reverse_take_reverse]
    rfl
  · obtain ⟨x, hx, hp95⟩ := exists_isP95_rtake hsome
    exact ⟨x, hx, by rw [hread, if_neg hsome, hp95]⟩
  · rw [hread, if_pos hnone]
  · have hkeeps' : KeepsLatest (recorded s (operations ++ [.record ⟨now, e⟩])) _ (l'.entry s) :=
      keepsLatest_perform? hkeeps h
    have hlatency : (Operation.record ⟨now, e⟩).latency? s = none := by
      rcases hother with ⟨o, rfl⟩ | hother
      · exact ite_self none
      · exact if_neg hother
    rw [recorded_append rfl, seededP95_append rfl, hlatency, Option.toList_none,
      List.append_nil] at hkeeps'
    have hread' : (l'.readLifetime s).p95LatencyMs = _ := hkeeps'.p95_read
    exact ⟨hkeeps'.latencies.trans hkeeps.latencies.symm, hread'.trans hread.symm⟩

-- Two recordings, a seed of one slice that has them, and four more recordings.
def seededHistory : List Operation :=
  (mixedHistory.take 2).map .record ++
    [.seedLifetime (broadSlice "alpha") { p95LatencyMs := 250.0 }] ++
    (mixedHistory.drop 2).map .record

theorem run?_latestLatencies_seededHistory :
    ∃ l, run? 120 seededHistory = some l ∧
      (l.entry (broadSlice "alpha")).latencies.reverse = [80, 90] ∧
      (l.entry ⟨"alpha", none⟩).latencies.reverse = [40, 70, 80, 90] ∧
      (l.readLifetime (broadSlice "alpha")).p95LatencyMs = (90 : UInt64).toFloat := by
  have hruns : (run? 120 seededHistory).isSome = true := by decide +kernel
  obtain ⟨l, hrun⟩ := Option.isSome_iff_exists.mp hruns
  have hbroad : recorded (broadSlice "alpha") seededHistory = [80, 90] := by decide +kernel
  have hall : recorded ⟨"alpha", none⟩ seededHistory = [40, 70, 80, 90] := by decide +kernel
  obtain ⟨hlatencies, hp95, -, -⟩ := run?_latestLatencies hrun (broadSlice "alpha")
  obtain ⟨hlatencies', -, -, -⟩ := run?_latestLatencies hrun ⟨"alpha", none⟩
  rw [hbroad] at hlatencies hp95
  rw [hall] at hlatencies'
  obtain ⟨x, hx, hread⟩ := hp95 (by decide)
  have hgreater : x = 90 := by
    rcases List.mem_pair.mp hx.mem with rfl | rfl
    · exact absurd hx.upTo (by decide)
    · rfl
  rw [hgreater] at hread
  exact ⟨l, hrun, hlatencies, hlatencies', hread⟩

end Ledger
end DemandRouting
