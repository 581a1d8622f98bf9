import DemandRouting.Assoc
import DemandRouting.Sources.Reading

namespace DemandRouting

-- A value and the time, in milliseconds, at which it was read.
structure Kept (α : Type) where
  value : α
  time : Nat

-- An answer is kept for a fixed time, a failure not at all.
structure Cache (α : Type) where
  kept : Assoc SliceId (Kept α) := {}

-- What a read through the cache came to, when it was over, and whether the source was asked.
structure CachedReading (α : Type) where
  result : Except SourceError α
  time : Nat
  asked : Bool
  cache : Cache α

namespace Cache

variable {α : Type}

instance : Inhabited (Cache α) := ⟨{}⟩

-- The kept value of a slice as long as it is younger than `ttl`.
def fresh? (c : Cache α) (ttl now : Nat) (s : SliceId) : Option α :=
  ((c.kept.get? s).filter fun k => now - k.time < ttl).map (·.value)

def keep (c : Cache α) (s : SliceId) (value : α) (time : Nat) : Cache α :=
  ⟨c.kept.set s ⟨value, time⟩⟩

-- Read a slice of which the source, when asked, gives `source`.
def read (c : Cache α) (ttl now : Nat) (s : SliceId) (source : Reading α) : CachedReading α :=
  match c.fresh? ttl now s with
  | some a => ⟨.ok a, now, false, c⟩
  | none =>
    let time := now + source.delay
    match source.result with
    | .ok a => ⟨.ok a, time, true, c.keep s a time⟩
    | .error e => ⟨.error e, time, true, c⟩

end Cache

-- The caches of both windows.
structure Caches where
  recent : Cache Recent := {}
  lifetime : Cache Lifetime := {}

namespace Caches

def of (c : Caches) : (w : Window) → Cache w.Data
  | .recent => c.recent
  | .lifetime => c.lifetime

def put (c : Caches) : (w : Window) → Cache w.Data → Caches
  | .recent, k => { c with recent := k }
  | .lifetime, k => { c with lifetime := k }

@[simp] theorem of_put_self (c : Caches) (w : Window) (k : Cache w.Data) :
    (c.put w k).of w = k := by
  cases w <;> rfl

theorem of_put_ne (c : Caches) {w w' : Window} (h : w' ≠ w) (k : Cache w.Data) :
    (c.put w k).of w' = c.of w' := by
  cases w <;> cases w'
  case recent.recent | lifetime.lifetime => exact absurd rfl h
  case recent.lifetime | lifetime.recent => rfl

@[simp] theorem put_of (c : Caches) (w : Window) : c.put w (c.of w) = c := by
  cases w <;> rfl

end Caches

-- Sources behind caches that keep a value for `ttl` milliseconds.
structure CachedSources where
  ttl : Nat
  caches : Caches := {}
  -- milliseconds that have passed
  now : Nat := 0

-- Read a slice of which the source, when asked, gives `source`.
def CachedSources.read (c : CachedSources) (w : Window) (s : SliceId) (source : Reading w.Data) :
    CachedReading w.Data :=
  (c.caches.of w).read c.ttl c.now s source

end DemandRouting
