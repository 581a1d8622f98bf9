import DemandRouting.Proofs.Performance.Buckets
import DemandRouting.Proofs.Performance.History

namespace DemandRouting

namespace Bucket

-- What a recording makes of a queue: nothing is left from before the window, and from there on all
-- buckets are as they were, but for the one of the minute of the outcome.
structure Trimmed (oldest : Int) (e : Event) (before after : List Bucket) : Prop where
  recent : ∀ b ∈ after, oldest ≤ b.minute
  kept : ∀ b : Bucket, b.minute ≠ e.minute → (b ∈ after ↔ b ∈ before ∧ oldest ≤ b.minute)
  received : oldest ≤ e.minute → ∃ b ∈ after, b.minute = e.minute ∧ Receives e before b
  -- a late outcome is not put in
  late : e.minute < oldest → after = visible oldest before

section Update

variable {oldest : Int} {e : Event} {buckets buckets' : List Bucket}

theorem sorted_visible (h : Sorted buckets) : Sorted (visible oldest buckets) :=
  List.Pairwise.filter _ h

-- Old buckets do not matter for an outcome that is not old.
theorem Receives.of_visible {b : Bucket} (hrecent : oldest ≤ e.minute)
    (h : Receives e (visible oldest buckets) b) : Receives e buckets b := by
  rcases h with ⟨old, hold, hminute, hadd⟩ | ⟨hnone, hadd⟩
  · exact .inl ⟨old, (mem_visible.mp hold).1, hminute, hadd⟩
  · refine .inr ⟨fun old hold hminute => ?_, hadd⟩
    exact hnone old (mem_visible.mpr ⟨hold, hminute ▸ hrecent⟩) hminute

theorem trimmed_late (hlate : e.minute < oldest) :
    Trimmed oldest e buckets (visible oldest buckets) where
  recent b hb := (mem_visible.mp hb).2
  kept _ _ := mem_visible
  received hrecent := by omega
  late _ := rfl

theorem Deposited.trimmed (hrecent : oldest ≤ e.minute)
    (h : Deposited e (visible oldest buckets) buckets') : Trimmed oldest e buckets buckets' where
  recent b hb := by
    by_cases hminute : b.minute = e.minute
    · exact hminute ▸ hrecent
    · exact (mem_visible.mp ((h.others b hminute).mp hb)).2
  kept b hminute := (h.others b hminute).trans mem_visible
  received _ := by
    obtain ⟨b, hb, hminute⟩ := List.mem_map.mp h.present
    exact ⟨b, hb, hminute, (h.receives b hb hminute).of_visible hrecent⟩
  late hlate := by omega

theorem update?_trims (hsorted : Sorted buckets) (h : update? oldest e buckets = some buckets') :
    Sorted buckets' ∧ Trimmed oldest e buckets buckets' := by
  simp only [update?] at h
  rw [dropWhile_eq_visible hsorted] at h
  split at h
  · rename_i hlate
    obtain rfl := Option.some_inj.mp h
    exact ⟨sorted_visible hsorted, trimmed_late hlate⟩
  · rename_i hrecent
    have hput := deposit?_deposited (sorted_visible hsorted) h
    exact ⟨hput.sorted, hput.trimmed (by omega)⟩

end Update

end Bucket

namespace Ledger

def InOrder (l : Ledger) : Prop := ∀ s, Bucket.Sorted (l.buckets s)

theorem inOrder_empty : InOrder {} := fun _ => List.Pairwise.nil

section Perform

variable {window : Int} {l l' : Ledger}

theorem record?_inOrder {now : Timestamp} {e : Event} (h : l.InOrder)
    (hrecord : l.record? now window e = some l') : l'.InOrder := by
  intro s
  by_cases hs : s.Covers e
  · exact (Bucket.update?_trims (h s) (record?_covered hrecord hs).2).1
  · rw [(record?_other hrecord hs).2]
    exact h s

-- A seeded queue is a single bucket.
theorem seedRecent_inOrder (h : l.InOrder) (now : Timestamp) (s : SliceId) (r : Recent) :
    (l.seedRecent now s r).InOrder := by
  intro s'
  by_cases hs : s = s'
  · subst hs
    simp [buckets, seedRecent, Assoc.getD, Bucket.Sorted]
  · have hsame : (l.seedRecent now s r).buckets s' = l.buckets s' := by
      simp [buckets, seedRecent, Assoc.getD, hs]
    rw [hsame]
    exact h s'

theorem perform?_inOrder {op : Operation} (h : l.InOrder)
    (hperform : l.perform? window op = some l') : l'.InOrder := by
  cases op with
  | record r => exact record?_inOrder h hperform
  | seedLifetime s totals =>
    obtain rfl := Option.some_inj.mp hperform
    exact h
  | seedRecent now s totals =>
    obtain rfl := Option.some_inj.mp hperform
    exact seedRecent_inOrder h now s totals
  | seedRevenue publisher bidder amount =>
    obtain ⟨total, -, hperform⟩ := Option.bind_eq_some_iff.mp hperform
    obtain rfl := Option.some_inj.mp hperform
    exact h

end Perform

theorem inOrder_run {window : Int} {operations : List Operation} {l : Ledger}
    (hrun : run? window operations = some l) : l.InOrder :=
  run?_induction (P := fun _ l => l.InOrder) inOrder_empty
    (fun _ _ _ _ h hperform => perform?_inOrder h hperform) hrun

-- In every state that a ledger can reach, its queues have one bucket a minute at most, in order.
-- The next recording, at any time, trims the queues that it goes into and leaves the others alone.
theorem run?_trims {window : Int} {operations : List Operation} {l : Ledger}
    (hrun : run? window operations = some l) :
    (∀ s, (l.buckets s).Pairwise (·.minute < ·.minute)) ∧
      ∀ (r : Recording) (l' : Ledger), l.record? r.now window r.event = some l' → ∀ s,
        (s ∈ r.event.slices →
          Bucket.Trimmed (oldestMinute r.now window) r.event (l.buckets s) (l'.buckets s)) ∧
        (s ∉ r.event.slices → l'.buckets s = l.buckets s) := by
  have hinOrder := inOrder_run hrun
  refine ⟨hinOrder, fun r l' hrecord s => ?_⟩
  rw [Event.mem_slices_iff]
  constructor
  · intro hs
    exact (Bucket.update?_trims (hinOrder s) (record?_covered hrecord hs).2).2
  · intro hs
    exact (record?_other hrecord hs).2

def answerAt (second : Int) : Event :=
  .request
    { bidder := "alpha", key := ⟨"DE", .mobile, .banner, none, none⟩, timestamp := ⟨second, 0⟩ }

-- A queue that was seeded at minute 5, after which the clock was set back to minute 1.
def setBackHistory : List Operation :=
  mixedHistory.map .record ++
    [.seedRecent ⟨300, 0⟩ (broadSlice "alpha") ⟨{}, 120.0⟩, .record ⟨⟨100, 0⟩, answerAt 100⟩]

-- At 260 seconds, the window begins with minute 2.
theorem run?_trims_setBackHistory :
    ∃ l l', run? 120 setBackHistory = some l ∧ l.record? ⟨260, 0⟩ 120 (answerAt 200) = some l' ∧
      Bucket.Trimmed 2 (answerAt 200) (l.buckets (broadSlice "alpha"))
        (l'.buckets (broadSlice "alpha")) ∧
      (l.buckets (broadSlice "alpha")).map (·.minute) = [1, 5] ∧
      (l'.buckets (broadSlice "alpha")).map (·.minute) = [3, 5] := by
  have hruns : ((run? 120 setBackHistory).bind fun l =>
      (l.record? ⟨260, 0⟩ 120 (answerAt 200)).map fun l' =>
        ((l.buckets (broadSlice "alpha")).map (·.minute),
          (l'.buckets (broadSlice "alpha")).map (·.minute))) = some ([1, 5], [3, 5]) := by
    decide +kernel
  obtain ⟨l, hrun, hrecords⟩ := Option.bind_eq_some_iff.mp hruns
  obtain ⟨l', hrecord, hminutes⟩ := Option.map_eq_some_iff.mp hrecords
  obtain ⟨hbefore, hafter⟩ := Prod.mk.inj hminutes
  have htrims := (run?_trims hrun).2 ⟨⟨260, 0⟩, answerAt 200⟩ l' hrecord (broadSlice "alpha")
  exact ⟨l, l', hrun, hrecord, htrims.1 (by decide), hbefore, hafter⟩

end Ledger
end DemandRouting
