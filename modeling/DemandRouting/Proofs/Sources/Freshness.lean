import DemandRouting.Sources.Cache
import Mathlib.Data.List.Induction

namespace DemandRouting

-- What happens to cached sources, one after the other.
inductive CacheUse where
  -- a read, and what the source would answer to it at this point
  | read (w : Window) (s : SliceId) (source : Reading w.Data)
  | wait (milliseconds : Nat)
  | clear

namespace CachedSources

def after (c : CachedSources) : CacheUse → CachedSources
  | .read w s source =>
    let r := c.read w s source
    { c with caches := c.caches.put w r.cache, now := r.time }
  | .wait milliseconds => { c with now := c.now + milliseconds }
  | .clear => { c with caches := {} }

def kept? (c : CachedSources) (w : Window) (s : SliceId) : Option (Kept w.Data) :=
  (c.caches.of w).kept.get? s

-- What is kept is young enough.
def IsFresh (c : CachedSources) {α : Type} (k : Kept α) : Prop := c.now - k.time < c.ttl

-- The source is asked for the slice and answers.
def Supplies (c : CachedSources) (w : Window) (s : SliceId) (use : CacheUse) (a : w.Data) : Prop :=
  ∃ source, use = .read w s source ∧ (c.read w s source).asked = true ∧ source.result = .ok a

section Read

variable {c : CachedSources} {w : Window} {s : SliceId} {source : Reading w.Data}

theorem read_of_fresh {k : Kept w.Data} (hkept : c.kept? w s = some k) (hfresh : c.IsFresh k) :
    c.read w s source = ⟨.ok k.value, c.now, false, c.caches.of w⟩ := by
  have hhit : (c.caches.of w).fresh? c.ttl c.now s = some k.value := by
    have hget : (c.caches.of w).kept.get? s = some k := hkept
    have hyoung : c.now - k.time < c.ttl := hfresh
    simp [Cache.fresh?, hget, hyoung]
  rw [read, Cache.read, hhit]

-- With nothing fresh the source is asked, and an answer is kept from when it comes.
theorem read_of_stale (hstale : ∀ k, c.kept? w s = some k → ¬ c.IsFresh k) :
    c.read w s source = ⟨source.result, c.now + source.delay, true,
      match source.result with
      | .ok a => (c.caches.of w).keep s a (c.now + source.delay)
      | .error _ => c.caches.of w⟩ := by
  have hmiss : (c.caches.of w).fresh? c.ttl c.now s = none := by
    rw [Cache.fresh?, Option.map_eq_none_iff, Option.filter_eq_none_iff]
    intro k hkept hfresh
    have hyoung : c.now - k.time < c.ttl := of_decide_eq_true hfresh
    exact hstale k hkept hyoung
  rw [read, Cache.read, hmiss]
  cases source.result <;> rfl

-- All that a read can come to.
theorem read_cases (c : CachedSources) (w : Window) (s : SliceId) (source : Reading w.Data) :
    (∃ k, c.kept? w s = some k ∧ c.IsFresh k ∧
        c.read w s source = ⟨.ok k.value, c.now, false, c.caches.of w⟩) ∨
      (∀ k, c.kept? w s = some k → ¬ c.IsFresh k) ∧
        ((∃ a, source.result = .ok a ∧ c.read w s source =
            ⟨.ok a, c.now + source.delay, true,
              (c.caches.of w).keep s a (c.now + source.delay)⟩) ∨
          ∃ e, source.result = .error e ∧ c.read w s source =
            ⟨.error e, c.now + source.delay, true, c.caches.of w⟩) := by
  by_cases hfresh : ∃ k, c.kept? w s = some k ∧ c.IsFresh k
  · obtain ⟨k, hkept, hfresh⟩ := hfresh
    exact .inl ⟨k, hkept, hfresh, read_of_fresh hkept hfresh⟩
  · have hstale : ∀ k, c.kept? w s = some k → ¬ c.IsFresh k :=
      fun k hkept hfresh' => hfresh ⟨k, hkept, hfresh'⟩
    refine .inr ⟨hstale, ?_⟩
    cases hresult : source.result with
    | ok a => exact .inl ⟨a, rfl, by rw [read_of_stale hstale, hresult]⟩
    | error e => exact .inr ⟨e, rfl, by rw [read_of_stale hstale, hresult]⟩

-- A read that the source does not answer changes no cache.
theorem cache_of_not_supplies (h : ∀ a, ¬ c.Supplies w s (.read w s source) a) :
    (c.read w s source).cache = c.caches.of w := by
  rcases read_cases c w s source with ⟨k, -, -, hread⟩ | ⟨-, ⟨a, hresult, hread⟩ | ⟨e, -, hread⟩⟩
  · rw [hread]
  · exact absurd ⟨source, rfl, by rw [hread], hresult⟩ (h a)
  · rw [hread]

theorem cache_of_supplies {a : w.Data} (h : c.Supplies w s (.read w s source) a) :
    (c.read w s source).cache = (c.caches.of w).keep s a (c.read w s source).time := by
  obtain ⟨source', huse, hasked, hresult⟩ := h
  obtain rfl : source = source' := by simpa using huse
  rcases read_cases c w s source with ⟨k, -, -, hread⟩ | ⟨-, ⟨b, hb, hread⟩ | ⟨e, he, -⟩⟩
  · rw [hread] at hasked
    exact absurd hasked Bool.false_ne_true
  · obtain rfl : b = a := by simpa [hb] using hresult
    rw [hread]
  · rw [he] at hresult
    cases hresult

end Read

section After

variable {c : CachedSources} {w : Window} {s : SliceId} {use : CacheUse}

theorem kept?_clear : (c.after .clear).kept? w s = none := by
  cases w <;> rfl

theorem kept?_of_supplies {a : w.Data} (h : c.Supplies w s use a) :
    (c.after use).kept? w s = some ⟨a, (c.after use).now⟩ := by
  have hsupplies := h
  obtain ⟨source, rfl, -, -⟩ := h
  simp [kept?, after, cache_of_supplies hsupplies, Cache.keep]

-- A read does not touch what is kept of other slices or through the other window.
theorem kept?_read_other {w' : Window} {s' : SliceId} {source : Reading w'.Data}
    (h : ¬ (w = w' ∧ s = s')) : (c.after (.read w' s' source)).kept? w s = c.kept? w s := by
  by_cases hw : w = w'
  · subst hw
    have hs : s' ≠ s := fun heq => h ⟨rfl, heq.symm⟩
    by_cases hsupplies : ∃ a, c.Supplies w s' (.read w s' source) a
    · obtain ⟨a, ha⟩ := hsupplies
      simp [kept?, after, cache_of_supplies ha, Cache.keep, hs]
    · rw [not_exists] at hsupplies
      simp [kept?, after, cache_of_not_supplies hsupplies]
  · simp only [kept?, after, Caches.of_put_ne _ hw]

theorem kept?_of_not_supplies (hclear : use ≠ .clear) (h : ∀ a, ¬ c.Supplies w s use a) :
    (c.after use).kept? w s = c.kept? w s := by
  cases use with
  | wait milliseconds => rfl
  | clear => exact absurd rfl hclear
  | read w' s' source =>
    by_cases hsame : w = w' ∧ s = s'
    · obtain ⟨rfl, rfl⟩ := hsame
      simp [kept?, after, cache_of_not_supplies h]
    · exact kept?_read_other hsame

theorem now_le_after : c.now ≤ (c.after use).now := by
  cases use with
  | wait milliseconds => exact Nat.le_add_right _ _
  | clear => exact Nat.le_refl _
  | read w s source =>
    simp only [after]
    rcases read_cases c w s source with ⟨k, -, -, hread⟩ | ⟨-, ⟨a, -, hread⟩ | ⟨e, -, hread⟩⟩
    · exact Nat.le_of_eq (by rw [hread])
    · rw [hread]
      exact Nat.le_add_right _ _
    · rw [hread]
      exact Nat.le_add_right _ _

end After

-- From empty caches.
def run (ttl : Nat) (uses : List CacheUse) : CachedSources := uses.foldl after { ttl }

theorem run_append_singleton (ttl : Nat) (uses : List CacheUse) (use : CacheUse) :
    run ttl (uses ++ [use]) = (run ttl uses).after use := by
  simp [run]

theorem ttl_after {c : CachedSources} {use : CacheUse} : (c.after use).ttl = c.ttl := by
  cases use <;> rfl

theorem ttl_run (ttl : Nat) (uses : List CacheUse) : (run ttl uses).ttl = ttl := by
  induction uses using List.reverseRecOn with
  | nil => rfl
  | append_singleton uses use ih => rw [run_append_singleton, ttl_after, ih]

-- The latest answer of the source for a slice, and when it came, with no clearing since.
inductive LastAnswer (ttl : Nat) (w : Window) (s : SliceId) : List CacheUse → Kept w.Data → Prop
  | supplied {uses : List CacheUse} {use : CacheUse} {a : w.Data}
      (h : (run ttl uses).Supplies w s use a) :
      LastAnswer ttl w s (uses ++ [use]) ⟨a, (run ttl (uses ++ [use])).now⟩
  | still {uses : List CacheUse} {use : CacheUse} {k : Kept w.Data}
      (h : LastAnswer ttl w s uses k) (hclear : use ≠ .clear)
      (hnone : ∀ a, ¬ (run ttl uses).Supplies w s use a) : LastAnswer ttl w s (uses ++ [use]) k

theorem LastAnswer.time_le {ttl : Nat} {w : Window} {s : SliceId} {uses : List CacheUse}
    {k : Kept w.Data} (h : LastAnswer ttl w s uses k) : k.time ≤ (run ttl uses).now := by
  induction h with
  | supplied h => exact Nat.le_refl _
  | still h hclear hnone ih =>
    rw [run_append_singleton]
    exact Nat.le_trans ih now_le_after

-- The caches forget nothing but what was cleared and replace nothing but by a newer answer.
theorem kept?_run_iff {ttl : Nat} {w : Window} {s : SliceId} {uses : List CacheUse}
    {k : Kept w.Data} : (run ttl uses).kept? w s = some k ↔ LastAnswer ttl w s uses k := by
  constructor
  · intro hkept
    induction uses using List.reverseRecOn generalizing k with
    | nil => cases w <;> cases hkept
    | append_singleton uses use ih =>
      rw [run_append_singleton] at hkept
      by_cases hclear : use = .clear
      · rw [hclear, kept?_clear] at hkept
        cases hkept
      · by_cases hsupplies : ∃ a, (run ttl uses).Supplies w s use a
        · obtain ⟨a, ha⟩ := hsupplies
          rw [kept?_of_supplies ha, ← run_append_singleton] at hkept
          obtain rfl := Option.some_inj.mp hkept
          exact .supplied ha
        · rw [not_exists] at hsupplies
          rw [kept?_of_not_supplies hclear hsupplies] at hkept
          exact .still (ih hkept) hclear hsupplies
  · intro h
    induction h with
    | supplied h => rw [run_append_singleton, kept?_of_supplies h]
    | still h hclear hnone ih => rw [run_append_singleton, kept?_of_not_supplies hclear hnone, ih]

-- A last answer that came less than `ttl` milliseconds ago.
def FreshAnswer (ttl : Nat) (w : Window) (s : SliceId) (uses : List CacheUse)
    (k : Kept w.Data) : Prop :=
  LastAnswer ttl w s uses k ∧ (run ttl uses).now < k.time + ttl

theorem freshAnswer_iff {ttl : Nat} {w : Window} {s : SliceId} {uses : List CacheUse}
    {k : Kept w.Data} : FreshAnswer ttl w s uses k ↔
      (run ttl uses).kept? w s = some k ∧ (run ttl uses).IsFresh k := by
  rw [FreshAnswer, kept?_run_iff, IsFresh, ttl_run]
  refine and_congr_right fun h => ?_
  have hle := h.time_le
  omega

-- What a read after a history of uses may come to.
structure ReadsThrough (ttl : Nat) (uses : List CacheUse) (w : Window) (s : SliceId)
    (source : Reading w.Data) (r : CachedReading w.Data) : Prop where
  -- The source is asked exactly if there is no fresh answer.
  asked : r.asked = true ↔ ¬ ∃ k, FreshAnswer ttl w s uses k
  -- What it says then is passed on; otherwise the fresh answer is given again.
  answered : r.asked = true → r.result = source.result
  recalled : ∀ k, FreshAnswer ttl w s uses k → r.result = .ok k.value
  -- Only a source that is asked and fails makes a read fail, and that changes nothing.
  failed : ∀ e, r.result = .error e ↔ r.asked = true ∧ source.result = .error e
  unharmed : ∀ e, r.result = .error e →
    ((run ttl uses).after (.read w s source)).caches = (run ttl uses).caches
  -- Nothing that is kept of another slice or through the other window changes.
  apart : ∀ w' s', ¬ (w' = w ∧ s' = s) →
    ((run ttl uses).after (.read w s source)).kept? w' s' = (run ttl uses).kept? w' s'
  -- Without any time to keep values there is only the source.
  uncached : ttl = 0 → r.asked = true ∧ r.result = source.result ∧
    r.time = (run ttl uses).now + source.delay

theorem read_bounded (ttl : Nat) (uses : List CacheUse) (w : Window) (s : SliceId)
    (source : Reading w.Data) :
    ReadsThrough ttl uses w s source ((run ttl uses).read w s source) := by
  have hapart : ∀ w' s', ¬ (w' = w ∧ s' = s) →
      ((run ttl uses).after (.read w s source)).kept? w' s' = (run ttl uses).kept? w' s' :=
    fun w' s' h => kept?_read_other h
  by_cases hanswer : ∃ k, FreshAnswer ttl w s uses k
  · obtain ⟨k, hk⟩ := hanswer
    obtain ⟨hkept, hfresh⟩ := freshAnswer_iff.mp hk
    have honly : ∀ k', FreshAnswer ttl w s uses k' → k' = k := fun k' hk' =>
      Option.some_inj.mp ((freshAnswer_iff.mp hk').1.symm.trans hkept)
    rw [read_of_fresh hkept hfresh]
    constructor
    case asked => simpa using ⟨k, hk⟩
    case answered => exact fun h => absurd h Bool.false_ne_true
    case recalled => exact fun k' hk' => by rw [honly k' hk']
    case failed => simp
    case unharmed => exact fun e h => nomatch h
    case apart => exact hapart
    case uncached =>
      rintro rfl
      have hyoung := hk.2
      have hle := hk.1.time_le
      omega
  · have hstale : ∀ k, (run ttl uses).kept? w s = some k → ¬ (run ttl uses).IsFresh k :=
      fun k hkept hfresh => hanswer ⟨k, freshAnswer_iff.mpr ⟨hkept, hfresh⟩⟩
    have hread : (run ttl uses).read w s source = _ := read_of_stale hstale
    rw [hread]
    constructor
    case asked => simpa using hanswer
    case answered => exact fun _ => rfl
    case recalled => exact fun k hk => absurd ⟨k, hk⟩ hanswer
    case failed => simp
    case unharmed =>
      intro e he
      simp only at he
      simp only [after, hread, he, Caches.put_of]
    case apart => exact hapart
    case uncached => exact fun _ => ⟨rfl, rfl, rfl⟩

end CachedSources
end DemandRouting
