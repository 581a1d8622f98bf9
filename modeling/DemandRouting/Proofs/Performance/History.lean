import DemandRouting.Performance.Ledger
import DemandRouting.Proofs.Lists

namespace DemandRouting

namespace SliceKey

-- Whether a slice holds the outcomes of a key: it has all parts of the key or leaves them open.
def Covers (k outcome : SliceKey) : Prop :=
  k.country = outcome.country ∧ k.device = outcome.device ∧ k.format = outcome.format ∧
    (k.size = none ∨ k.size = outcome.size) ∧
    (k.publisher = none ∨ k.publisher = outcome.publisher)

instance (k outcome : SliceKey) : Decidable (k.Covers outcome) := by
  unfold Covers
  infer_instance

theorem mem_addLevel {k key : SliceKey} {levels : List SliceKey} :
    k ∈ addLevel levels key ↔ k ∈ levels ∨ k = key := by
  unfold addLevel
  split
  · rename_i h
    have hmem : key ∈ levels := by simpa using h
    exact ⟨.inl, fun h => h.elim id fun heq => heq ▸ hmem⟩
  · simp

theorem nodup_addLevel {key : SliceKey} {levels : List SliceKey} (h : levels.Nodup) :
    (addLevel levels key).Nodup := by
  unfold addLevel
  split
  · exact h
  · rename_i hnew
    rw [List.contains_iff_mem] at hnew
    rw [List.nodup_append_comm]
    exact h.cons hnew

theorem nodup_fallback (k : SliceKey) : k.fallback.Nodup :=
  nodup_addLevel (nodup_addLevel (nodup_addLevel (nodup_addLevel .nil)))

-- The chain of a key is made of the slices that cover it, whatever parts it has itself.
theorem mem_fallback_iff {k outcome : SliceKey} : k ∈ outcome.fallback ↔ k.Covers outcome := by
  obtain ⟨country, device, format, size, publisher⟩ := k
  obtain ⟨country', device', format', size', publisher'⟩ := outcome
  simp only [fallback, List.foldl_cons, List.foldl_nil, mem_addLevel, List.not_mem_nil, false_or,
    withoutSize, withoutPublisher, SliceKey.mk.injEq, Covers]
  constructor
  · rintro (((h | h) | h) | h) <;> obtain ⟨rfl, rfl, rfl, rfl, rfl⟩ := h <;> simp
  · rintro ⟨rfl, rfl, rfl, rfl | rfl, rfl | rfl⟩ <;> simp

end SliceKey

namespace SliceId

-- Outcomes of the bidder, with a key that the slice covers if it has one.
def Covers (s : SliceId) (e : Event) : Prop :=
  s.bidder = e.bidder ∧ ∀ k ∈ s.key, k.Covers e.key

instance (s : SliceId) (e : Event) : Decidable (s.Covers e) := by
  unfold Covers
  infer_instance

end SliceId

namespace Event

theorem mem_slices_iff {e : Event} {s : SliceId} : s ∈ e.slices ↔ s.Covers e := by
  obtain ⟨bidder, key⟩ := s
  simp only [slices, List.mem_append, List.mem_map, List.mem_singleton, SliceId.mk.injEq,
    SliceId.Covers]
  cases key with
  | none => simp [eq_comm]
  | some k =>
    simp only [Option.some.injEq, reduceCtorEq, and_false, or_false, Option.mem_some_iff,
      forall_eq']
    rw [← SliceKey.mem_fallback_iff]
    constructor
    · rintro ⟨k', hk', rfl, rfl⟩
      exact ⟨rfl, hk'⟩
    · rintro ⟨rfl, hk⟩
      exact ⟨k, hk, rfl, rfl⟩

theorem nodup_slices (e : Event) : e.slices.Nodup := by
  rw [slices, List.nodup_append_comm]
  apply List.Nodup.cons
  · simp
  · apply e.key.nodup_fallback.map
    intro k k' h
    simpa using h

end Event

namespace Ledger

def entry (l : Ledger) (s : SliceId) : LifetimeEntry := l.lifetime.getD s {}

def buckets (l : Ledger) (s : SliceId) : List Bucket := l.recent.getD s []

def SameAt (s : SliceId) (l l' : Ledger) : Prop :=
  l'.entry s = l.entry s ∧ l'.buckets s = l.buckets s

-- The outcome has been added to both tables of a slice.
def AddedAt (s : SliceId) (oldest : Int) (e : Event) (l l' : Ledger) : Prop :=
  (l.entry s).add? e = some (l'.entry s) ∧
    Bucket.update? oldest e (l.buckets s) = some (l'.buckets s)

theorem SameAt.trans {s : SliceId} {l l' l'' : Ledger} (h : SameAt s l l')
    (h' : SameAt s l' l'') : SameAt s l l'' :=
  ⟨h'.1.trans h.1, h'.2.trans h.2⟩

theorem AddedAt.of_same_left {s : SliceId} {oldest : Int} {e : Event} {l l' l'' : Ledger}
    (h : SameAt s l l') (h' : AddedAt s oldest e l' l'') : AddedAt s oldest e l l'' := by
  rw [AddedAt, ← h.1, ← h.2]
  exact h'

theorem AddedAt.of_same_right {s : SliceId} {oldest : Int} {e : Event} {l l' l'' : Ledger}
    (h : AddedAt s oldest e l l') (h' : SameAt s l' l'') : AddedAt s oldest e l l'' := by
  rw [AddedAt, h'.1, h'.2]
  exact h

theorem addToSlice?_eq_some {oldest : Int} {e : Event} {l l' : Ledger} {s : SliceId}
    (h : addToSlice? oldest e l s = some l') :
    AddedAt s oldest e l l' ∧ ∀ s', s' ≠ s → SameAt s' l l' := by
  obtain ⟨entry, hentry, h⟩ := Option.bind_eq_some_iff.mp h
  obtain ⟨buckets, hbuckets, h⟩ := Option.bind_eq_some_iff.mp h
  obtain rfl := Option.some_inj.mp h
  refine ⟨⟨?_, ?_⟩, fun s' hs' => ⟨?_, ?_⟩⟩
  · simpa [Ledger.entry, Assoc.getD] using hentry
  · simpa [Ledger.buckets, Assoc.getD] using hbuckets
  · simp [Ledger.entry, Assoc.getD, hs'.symm]
  · simp [Ledger.buckets, Assoc.getD, hs'.symm]

-- A slice that is listed once is added to once, and slices that are not listed stay as they are.
theorem foldlM_addToSlice? {oldest : Int} {e : Event} {slices : List SliceId} {l l' : Ledger}
    (hnodup : slices.Nodup) (h : slices.foldlM (addToSlice? oldest e) l = some l') (s : SliceId) :
    (s ∈ slices → AddedAt s oldest e l l') ∧ (s ∉ slices → SameAt s l l') := by
  induction slices generalizing l with
  | nil =>
    obtain rfl := Option.some_inj.mp h
    exact ⟨fun hs => absurd hs (List.not_mem_nil), fun _ => ⟨rfl, rfl⟩⟩
  | cons first slices ih =>
    obtain ⟨hnew, hrest⟩ := List.nodup_cons.mp hnodup
    obtain ⟨mid, hmid, h⟩ := Option.bind_eq_some_iff.mp h
    obtain ⟨hadded, hsame⟩ := addToSlice?_eq_some hmid
    obtain ⟨hin, hout⟩ := ih hrest h
    constructor
    · intro hs
      by_cases heq : s = first
      · subst heq
        exact hadded.of_same_right (hout hnew)
      · have hs := (List.mem_cons.mp hs).resolve_left heq
        exact (hin hs).of_same_left (hsame s heq)
    · intro hs
      rw [List.mem_cons, not_or] at hs
      exact (hsame s hs.1).trans (hout hs.2)

theorem creditWin?_same {l l' : Ledger} {e : Event} (h : l.creditWin? e = some l')
    (s : SliceId) : SameAt s l l' := by
  cases e with
  | request o =>
    obtain rfl := Option.some_inj.mp h
    exact ⟨rfl, rfl⟩
  | win o =>
    simp only [creditWin?] at h
    split at h
    · obtain ⟨total, htotal, h⟩ := Option.bind_eq_some_iff.mp h
      obtain rfl := Option.some_inj.mp h
      exact ⟨rfl, rfl⟩
    · obtain rfl := Option.some_inj.mp h
      exact ⟨rfl, rfl⟩

section Record

variable {now : Timestamp} {window : Int} {l l' : Ledger} {e : Event} {s : SliceId}

theorem record?_covered (h : l.record? now window e = some l') (hs : s.Covers e) :
    AddedAt s (oldestMinute now window) e l l' := by
  obtain ⟨mid, hmid, h⟩ := Option.bind_eq_some_iff.mp h
  have hadded := (foldlM_addToSlice? e.nodup_slices hmid s).1 (Event.mem_slices_iff.mpr hs)
  exact hadded.of_same_right (creditWin?_same h s)

theorem record?_other (h : l.record? now window e = some l') (hs : ¬ s.Covers e) :
    SameAt s l l' := by
  obtain ⟨mid, hmid, h⟩ := Option.bind_eq_some_iff.mp h
  have hsame := (foldlM_addToSlice? e.nodup_slices hmid s).2 (fun hin =>
    hs (Event.mem_slices_iff.mp hin))
  exact hsame.trans (creditWin?_same h s)

end Record

end Ledger

-- An outcome and what the clock showed when it was recorded.
structure Recording where
  now : Timestamp
  event : Event
deriving DecidableEq

namespace Ledger

-- From an empty ledger; no result where a sum of money gets too large.
def replay (window : Int) (history : List Recording) : Option Ledger :=
  history.foldlM (fun l r => l.record? r.now window r.event) {}

-- The outcomes that a slice covers, in the order in which they were recorded.
def seen (s : SliceId) (history : List Recording) : List Event :=
  (history.map (·.event)).filter (s.Covers ·)

-- What holds of an empty ledger and is kept by every recording holds after every history.
theorem replay_induction {window : Int} {P : List Recording → Ledger → Prop} (hempty : P [] {})
    (hrecord : ∀ (history : List Recording) (r : Recording) (l l' : Ledger), P history l →
      l.record? r.now window r.event = some l' → P (history ++ [r]) l')
    {history : List Recording} {l : Ledger} (hreplay : replay window history = some l) :
    P history l :=
  foldlM_induction hempty hrecord hreplay

theorem seen_append_covered {s : SliceId} {history : List Recording} {r : Recording}
    (hs : s.Covers r.event) : seen s (history ++ [r]) = seen s history ++ [r.event] := by
  simp [seen, hs]

theorem seen_append_other {s : SliceId} {history : List Recording} {r : Recording}
    (hs : ¬ s.Covers r.event) : seen s (history ++ [r]) = seen s history := by
  simp [seen, hs]

end Ledger

-- All that changes a ledger.
inductive Operation where
  | record (r : Recording)
  | seedLifetime (s : SliceId) (totals : Lifetime)
  | seedRecent (now : Timestamp) (s : SliceId) (totals : Recent)
  | seedRevenue (publisher bidder : String) (amount : Money)

namespace Ledger

def perform? (window : Int) (l : Ledger) : Operation → Option Ledger
  | .record r => l.record? r.now window r.event
  | .seedLifetime s totals => some (l.seedLifetime s totals)
  | .seedRecent now s totals => some (l.seedRecent now s totals)
  | .seedRevenue publisher bidder amount => l.credit? publisher bidder amount

def run? (window : Int) (operations : List Operation) : Option Ledger :=
  operations.foldlM (perform? window) {}

-- The same for operations of every kind.
theorem run?_induction {window : Int} {P : List Operation → Ledger → Prop} (hempty : P [] {})
    (hperform : ∀ (operations : List Operation) (op : Operation) (l l' : Ledger),
      P operations l → l.perform? window op = some l' → P (operations ++ [op]) l')
    {operations : List Operation} {l : Ledger} (hrun : run? window operations = some l) :
    P operations l :=
  foldlM_induction hempty hperform hrun

end Ledger

-- Outcomes of two bidders: on time, out of order, later than two minutes allow, and early.
def mixedHistory : List Recording :=
  let key := fun size => (⟨"DE", .mobile, .banner, size, some "news"⟩ : SliceKey)
  let bid : Money := ⟨false, 150, 2, by decide, by decide⟩
  let price : Money := ⟨false, 75, 2, by decide, by decide⟩
  let answer := fun bidder size bid latencyMs second =>
    Event.request
      { bidder, key := key size, bid, latencyMs, timestamp := ⟨second, 0⟩ }
  [⟨⟨0, 0⟩, answer "alpha" (some "300x250") (some bid) 40 0⟩,
    ⟨⟨60, 0⟩, answer "alpha" (some "728x90") none 70 (-30)⟩,
    ⟨⟨60, 0⟩, answer "beta" (some "300x250") (some bid) 20 50⟩,
    ⟨⟨90, 0⟩, answer "alpha" (some "300x250") (some bid) 80 (-70)⟩,
    ⟨⟨130, 0⟩, .win ⟨"alpha", key (some "300x250"), price, ⟨200, 0⟩⟩⟩,
    ⟨⟨170, 0⟩, answer "alpha" none (some bid) 90 20⟩]

-- All of a bidder in one country, device and format.
def broadSlice (bidder : String) : SliceId := ⟨bidder, some ⟨"DE", .mobile, .banner, none, none⟩⟩

end DemandRouting
