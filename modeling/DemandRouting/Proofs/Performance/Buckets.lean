import DemandRouting.Proofs.Performance.Tally
import Mathlib.Data.Finset.Sort

namespace DemandRouting

namespace Event

def ofMinute (m : Int) (outcomes : List Event) : List Event := outcomes.filter (·.minute = m)

-- The minutes that outcomes fall in, each once and in order.
def minutes (outcomes : List Event) : List Int := (outcomes.map minute).toFinset.sort

theorem mem_minutes {m : Int} {outcomes : List Event} :
    m ∈ minutes outcomes ↔ m ∈ outcomes.map minute := by
  rw [minutes, Finset.mem_sort, List.mem_toFinset]

theorem minutes_pairwise (outcomes : List Event) : (minutes outcomes).Pairwise (· < ·) :=
  (Finset.sortedLT_sort _).pairwise

theorem ofMinute_append_self (outcomes : List Event) (e : Event) :
    ofMinute e.minute (outcomes ++ [e]) = ofMinute e.minute outcomes ++ [e] := by
  simp [ofMinute]

theorem ofMinute_append_other {m : Int} {e : Event} (h : e.minute ≠ m) (outcomes : List Event) :
    ofMinute m (outcomes ++ [e]) = ofMinute m outcomes := by
  simp [ofMinute, h]

-- Outcomes are those of all their minutes together.
theorem flatMap_ofMinute_perm {ms : List Int} {outcomes : List Event} (hnodup : ms.Nodup)
    (hall : ∀ e ∈ outcomes, e.minute ∈ ms) :
    (ms.flatMap (ofMinute · outcomes)).Perm outcomes := by
  induction ms generalizing outcomes with
  | nil =>
    have hnone : outcomes = [] := List.eq_nil_iff_forall_not_mem.mpr fun e he => by
      simpa using hall e he
    rw [hnone]
    exact .nil
  | cons m ms ih =>
    obtain ⟨hnew, hnodup⟩ := List.nodup_cons.mp hnodup
    -- what is left when the first minute is taken out falls into the other minutes
    obtain ⟨rest, hrest⟩ : ∃ rest, rest = outcomes.filter fun e => !decide (e.minute = m) :=
      ⟨_, rfl⟩
    have hothers : ∀ m' ∈ ms, ofMinute m' outcomes = ofMinute m' rest := by
      intro m' hm'
      have hne : m' ≠ m := fun heq => hnew (heq ▸ hm')
      rw [hrest, ofMinute, ofMinute, List.filter_filter]
      apply List.filter_congr
      intro e _
      by_cases he : e.minute = m'
      · simp [he, hne]
      · simp [he]
    have hcovered : ∀ e ∈ rest, e.minute ∈ ms := by
      intro e he
      obtain ⟨hmem, hne⟩ := List.mem_filter.mp (hrest ▸ he)
      exact (List.mem_cons.mp (hall e hmem)).resolve_left (by simpa using hne)
    have hsplit := List.filter_append_perm (fun e : Event => decide (e.minute = m)) outcomes
    rw [← hrest] at hsplit
    rw [List.flatMap_cons, List.flatMap_congr hothers]
    exact ((ih hnodup hcovered).append_left _).trans hsplit

theorem flatMap_minutes_perm (outcomes : List Event) :
    ((minutes outcomes).flatMap (ofMinute · outcomes)).Perm outcomes := by
  apply flatMap_ofMinute_perm
  · exact (minutes_pairwise outcomes).imp fun h => Int.ne_of_lt h
  · exact fun e he => mem_minutes.mpr (List.mem_map_of_mem he)

end Event

namespace Bucket

-- The bucket is made of exactly these outcomes; the latest latency comes first.
structure Holds (b : Bucket) (outcomes : List Event) : Prop where
  counters : b.counters.Tallies outcomes
  latencies : b.latencies = (outcomes.filterMap Event.latency?).reverse
  unseeded : b.reportedP95 = none

theorem holds_new (m : Int) : Holds { minute := m } [] where
  counters := Counters.tallies_nil
  latencies := rfl
  unseeded := rfl

theorem add?_minute {b b' : Bucket} {e : Event} (h : b.add? e = some b') :
    b'.minute = b.minute := by
  obtain ⟨counters, -, h⟩ := Option.bind_eq_some_iff.mp h
  obtain rfl := Option.some_inj.mp h
  rfl

theorem Holds.add {b b' : Bucket} {outcomes : List Event} {e : Event} (h : b.Holds outcomes)
    (hadd : b.add? e = some b') : b'.Holds (outcomes ++ [e]) := by
  obtain ⟨counters, hcounters, hadd⟩ := Option.bind_eq_some_iff.mp hadd
  obtain rfl := Option.some_inj.mp hadd
  refine ⟨h.counters.add hcounters, ?_, h.unseeded⟩
  show e.latency?.toList ++ b.latencies = _
  rw [h.latencies, List.filterMap_append, List.reverse_append]
  cases hlatency : e.latency? <;> simp [hlatency]

def Sorted (buckets : List Bucket) : Prop := buckets.Pairwise (·.minute < ·.minute)

-- The bucket of an outcome after it was put in: that of its minute, or a new one.
def Receives (e : Event) (before : List Bucket) (b : Bucket) : Prop :=
  (∃ old ∈ before, old.minute = e.minute ∧ old.add? e = some b) ∨
    (∀ old ∈ before, old.minute ≠ e.minute) ∧ add? { minute := e.minute } e = some b

-- The outcome is in the bucket of its minute, and all other buckets are as they were.
structure Deposited (e : Event) (before after : List Bucket) : Prop where
  sorted : Sorted after
  others : ∀ b : Bucket, b.minute ≠ e.minute → (b ∈ after ↔ b ∈ before)
  receives : ∀ b ∈ after, b.minute = e.minute → Receives e before b
  present : e.minute ∈ after.map (·.minute)

theorem deposited_nil {e : Event} {b : Bucket} (h : add? { minute := e.minute } e = some b) :
    Deposited e [] [b] := by
  have hminute : b.minute = e.minute := add?_minute h
  refine ⟨List.pairwise_singleton _ _, fun b' hb' => ?_, fun b' hb' _ => ?_, by simp [hminute]⟩
  · simp only [List.mem_singleton, List.not_mem_nil, iff_false]
    rintro rfl
    exact hb' hminute
  · obtain rfl := List.mem_singleton.mp hb'
    exact .inr ⟨fun old hold => absurd hold List.not_mem_nil, h⟩

-- The outcome belongs behind the first bucket.
theorem Deposited.cons {e : Event} {b : Bucket} {before after : List Bucket}
    (h : Deposited e before after) (hsorted : Sorted (b :: before))
    (hlt : b.minute < e.minute) : Deposited e (b :: before) (b :: after) := by
  obtain ⟨hfirst, -⟩ := List.pairwise_cons.mp hsorted
  refine ⟨List.pairwise_cons.mpr ⟨fun b' hb' => ?_, h.sorted⟩, fun b' hb' => ?_,
    fun b' hb' heq => ?_, List.mem_cons_of_mem _ h.present⟩
  · by_cases heq : b'.minute = e.minute
    · rw [heq]
      exact hlt
    · exact hfirst b' ((h.others b' heq).mp hb')
  · rw [List.mem_cons, List.mem_cons, h.others b' hb']
  · rcases List.mem_cons.mp hb' with rfl | hb'
    · omega
    · rcases h.receives b' hb' heq with ⟨old, hold, hadd⟩ | ⟨hnone, hadd⟩
      · exact .inl ⟨old, List.mem_cons_of_mem _ hold, hadd⟩
      · refine .inr ⟨List.forall_mem_cons.mpr ⟨?_, hnone⟩, hadd⟩
        omega

-- The outcome belongs into the first bucket.
theorem deposited_first {e : Event} {b b' : Bucket} {rest : List Bucket}
    (hsorted : Sorted (b :: rest)) (heq : b.minute = e.minute) (hadd : b.add? e = some b') :
    Deposited e (b :: rest) (b' :: rest) := by
  obtain ⟨hfirst, hrest⟩ := List.pairwise_cons.mp hsorted
  have hminute := add?_minute hadd
  refine ⟨List.pairwise_cons.mpr ⟨fun c hc => ?_, hrest⟩, fun c hc => ?_, fun c hc hceq => ?_, ?_⟩
  · rw [hminute]
    exact hfirst c hc
  · have hb : c ≠ b := fun h => hc (h ▸ heq)
    have hb' : c ≠ b' := fun h => hc (h ▸ hminute.trans heq)
    simp [hb, hb']
  · rcases List.mem_cons.mp hc with rfl | hc
    · exact .inl ⟨b, List.mem_cons_self, heq, hadd⟩
    · have hlt := hfirst c hc
      omega
  · simp [hminute.trans heq]

-- The outcome belongs before the first bucket.
theorem deposited_before {e : Event} {b fresh : Bucket} {rest : List Bucket}
    (hsorted : Sorted (b :: rest)) (hlt : e.minute < b.minute)
    (hadd : add? { minute := e.minute } e = some fresh) :
    Deposited e (b :: rest) (fresh :: b :: rest) := by
  have hlater : ∀ c ∈ b :: rest, e.minute < c.minute :=
    List.forall_mem_cons.mpr ⟨hlt, fun c hc =>
      Int.lt_trans hlt ((List.pairwise_cons.mp hsorted).1 c hc)⟩
  have hminute : fresh.minute = e.minute := add?_minute hadd
  refine ⟨List.pairwise_cons.mpr ⟨fun c hc => ?_, hsorted⟩, fun c hc => ?_,
    fun c hc heq => ?_, by simp [hminute]⟩
  · rw [hminute]
    exact hlater c hc
  · have hfresh : c ≠ fresh := fun h => hc (h ▸ hminute)
    rw [List.mem_cons]
    simp only [hfresh, false_or]
  · rcases List.mem_cons.mp hc with rfl | hc
    · exact .inr ⟨fun old hold => (Int.ne_of_lt (hlater old hold)).symm, hadd⟩
    · have hlt := hlater c hc
      omega

theorem deposit?_deposited {e : Event} {before after : List Bucket} (hsorted : Sorted before)
    (h : deposit? e before = some after) : Deposited e before after := by
  induction before generalizing after with
  | nil =>
    obtain ⟨b, hb, h⟩ := Option.bind_eq_some_iff.mp h
    obtain rfl := Option.some_inj.mp h
    exact deposited_nil hb
  | cons b rest ih =>
    unfold deposit? at h
    split at h
    · rename_i hlt
      obtain ⟨after', hafter, h⟩ := Option.bind_eq_some_iff.mp h
      obtain rfl := Option.some_inj.mp h
      exact (ih (List.pairwise_cons.mp hsorted).2 hafter).cons hsorted hlt
    · rename_i hle
      split at h
      · rename_i heq
        obtain ⟨b', hb', h⟩ := Option.bind_eq_some_iff.mp h
        obtain rfl := Option.some_inj.mp h
        exact deposited_first hsorted heq hb'
      · rename_i hne
        obtain ⟨fresh, hfresh, h⟩ := Option.bind_eq_some_iff.mp h
        obtain rfl := Option.some_inj.mp h
        exact deposited_before hsorted (by omega) hfresh

-- From a minute on, the buckets are in order, each holds what was recorded of its minute, and there
-- is one for every minute of which something was recorded.
structure Reflects (oldest : Int) (buckets : List Bucket) (outcomes : List Event) : Prop where
  sorted : Sorted buckets
  holds : ∀ b ∈ buckets, oldest ≤ b.minute → b.Holds (Event.ofMinute b.minute outcomes)
  minutes : ∀ m, oldest ≤ m → (m ∈ buckets.map (·.minute) ↔ m ∈ outcomes.map Event.minute)

theorem reflects_nil (oldest : Int) : Reflects oldest [] [] where
  sorted := .nil
  holds _ hb := absurd hb List.not_mem_nil
  minutes _ _ := .rfl

-- The buckets that a window shows which begins with this minute.
def visible (oldest : Int) (buckets : List Bucket) : List Bucket :=
  buckets.filter (oldest ≤ ·.minute)

theorem mem_visible {oldest : Int} {buckets : List Bucket} {b : Bucket} :
    b ∈ visible oldest buckets ↔ b ∈ buckets ∧ oldest ≤ b.minute := by
  rw [visible, List.mem_filter, decide_eq_true_eq]

-- In a queue in order, letting go of the front leaves what a reader is shown.
theorem dropWhile_eq_visible {buckets : List Bucket} (hsorted : Sorted buckets) (oldest : Int) :
    buckets.dropWhile (·.minute < oldest) = visible oldest buckets := by
  induction buckets with
  | nil => rfl
  | cons b rest ih =>
    obtain ⟨hfirst, hrest⟩ := List.pairwise_cons.mp hsorted
    by_cases hold : b.minute < oldest
    · rw [List.dropWhile_cons_of_pos (by simpa using hold), visible,
        List.filter_cons_of_neg (by simpa using hold), ih hrest, visible]
    · have hkept : ∀ c ∈ b :: rest, oldest ≤ c.minute :=
        List.forall_mem_cons.mpr ⟨by omega, fun c hc => by have := hfirst c hc; omega⟩
      rw [List.dropWhile_cons_of_neg (by simpa using hold)]
      exact (List.filter_eq_self.mpr fun c hc => by simpa using hkept c hc).symm

section Reflects

variable {oldest oldest' : Int} {buckets buckets' : List Bucket} {outcomes : List Event}
  {e : Event}

-- Nothing is asked of what a later beginning leaves out.
theorem Reflects.mono (h : Reflects oldest buckets outcomes) (hle : oldest ≤ oldest') :
    Reflects oldest' buckets outcomes where
  sorted := h.sorted
  holds b hb hvisible := h.holds b hb (Int.le_trans hle hvisible)
  minutes m hm := h.minutes m (Int.le_trans hle hm)

theorem Reflects.trim (h : Reflects oldest buckets outcomes) :
    Reflects oldest (buckets.dropWhile (·.minute < oldest)) outcomes := by
  rw [dropWhile_eq_visible h.sorted]
  refine ⟨List.Pairwise.filter _ h.sorted, fun b hb => h.holds b (mem_visible.mp hb).1,
    fun m hm => ?_⟩
  rw [← h.minutes m hm, List.mem_map, List.mem_map]
  constructor
  · rintro ⟨b, hb, rfl⟩
    exact ⟨b, (mem_visible.mp hb).1, rfl⟩
  · rintro ⟨b, hb, rfl⟩
    exact ⟨b, mem_visible.mpr ⟨hb, hm⟩, rfl⟩

-- An outcome before the beginning belongs into none of the buckets that count.
theorem Reflects.late (h : Reflects oldest buckets outcomes) (hlate : e.minute < oldest) :
    Reflects oldest buckets (outcomes ++ [e]) := by
  refine ⟨h.sorted, fun b hb hvisible => ?_, fun m hm => ?_⟩
  · rw [Event.ofMinute_append_other (by omega)]
    exact h.holds b hb hvisible
  · have hne : m ≠ e.minute := by omega
    rw [h.minutes m hm, List.map_append, List.mem_append, List.map_singleton, List.mem_singleton]
    simp [hne]

theorem Receives.holds {b : Bucket} (h : Reflects oldest buckets outcomes)
    (hvisible : oldest ≤ e.minute) (hreceives : Receives e buckets b) :
    b.Holds (Event.ofMinute e.minute (outcomes ++ [e])) := by
  rw [Event.ofMinute_append_self]
  rcases hreceives with ⟨old, hold, hminute, hadd⟩ | ⟨hnone, hadd⟩
  · have hheld := h.holds old hold (hminute ▸ hvisible)
    rw [hminute] at hheld
    exact hheld.add hadd
  · -- a minute without a bucket is one without outcomes
    have hempty : Event.ofMinute e.minute outcomes = [] := by
      rw [Event.ofMinute, List.filter_eq_nil_iff]
      intro e' he' hminute
      have hmem : e.minute ∈ outcomes.map Event.minute :=
        List.mem_map.mpr ⟨e', he', of_decide_eq_true hminute⟩
      obtain ⟨b', hb', heq⟩ := List.mem_map.mp ((h.minutes _ hvisible).mpr hmem)
      exact hnone b' hb' heq
    rw [hempty]
    exact (holds_new e.minute).add hadd

theorem Reflects.deposit (h : Reflects oldest buckets outcomes) (hvisible : oldest ≤ e.minute)
    (hdeposit : deposit? e buckets = some buckets') :
    Reflects oldest buckets' (outcomes ++ [e]) := by
  have hput := deposit?_deposited h.sorted hdeposit
  refine ⟨hput.sorted, fun b hb hbvisible => ?_, fun m hm => ?_⟩
  · by_cases hminute : b.minute = e.minute
    · rw [hminute]
      exact (hput.receives b hb hminute).holds h hvisible
    · rw [Event.ofMinute_append_other (Ne.symm hminute)]
      exact h.holds b ((hput.others b hminute).mp hb) hbvisible
  · rw [List.map_append, List.mem_append, List.map_singleton, List.mem_singleton]
    by_cases hminute : m = e.minute
    · simp only [hminute, or_true, iff_true]
      exact hput.present
    · rw [← h.minutes m hm, List.mem_map, List.mem_map]
      simp only [hminute, or_false]
      constructor <;> rintro ⟨b, hb, rfl⟩
      · exact ⟨b, (hput.others b hminute).mp hb, rfl⟩
      · exact ⟨b, (hput.others b hminute).mpr hb, rfl⟩

-- One recording into the slice, at a cutoff that is no earlier than the one before.
theorem Reflects.update (h : Reflects oldest buckets outcomes) (hle : oldest ≤ oldest')
    (hupdate : update? oldest' e buckets = some buckets') :
    Reflects oldest' buckets' (outcomes ++ [e]) := by
  have hkept := (h.mono hle).trim
  simp only [update?] at hupdate
  split at hupdate
  · rename_i hlate
    obtain rfl := Option.some_inj.mp hupdate
    exact hkept.late hlate
  · rename_i hvisible
    exact hkept.deposit (by omega) hupdate

end Reflects

end Bucket
end DemandRouting
