import DemandRouting.Performance.Counters
import DemandRouting.Slice

namespace DemandRouting

inductive SourceError where
  | unavailable (reason : String)
  | timeout (milliseconds : UInt64)
  | request (reason : String)
  | decode (reason : String)
  | notFound (what : String)
deriving DecidableEq

def SourceError.message : SourceError → String
  | .unavailable reason => "Source unavailable: " ++ reason
  | .timeout ms => "Timed out after " ++ toString ms.toNat ++ " ms"
  | .request reason => "Request failed: " ++ reason
  | .decode reason => "Failed to decode response: " ++ reason
  | .notFound what => "Not found: " ++ what

-- An answer and the milliseconds that it takes.
structure Reading (α : Type) where
  result : Except SourceError α
  delay : Nat := 0

namespace Reading

variable {α : Type}

def immediate (a : α) : Reading α := ⟨.ok a, 0⟩

-- Wait no longer than `limit`. An answer that comes exactly then still counts.
def within (r : Reading α) (limit : UInt64) : Reading α :=
  if r.delay ≤ limit.toNat then r else ⟨.error (.timeout limit), limit.toNat⟩

-- A failed read counts as no data.
def orEmpty [Inhabited α] (r : Reading α) : α :=
  match r.result with
  | .ok a => a
  | .error _ => default

end Reading

-- The windows that a slice is read through.
inductive Window where
  | recent
  | lifetime
deriving DecidableEq, Repr

abbrev Window.Data : Window → Type
  | recent => Recent
  | lifetime => Lifetime

-- Both windows of every slice.
structure Sources where
  recent : SliceId → Reading Recent
  lifetime : SliceId → Reading Lifetime

def Sources.of (s : Sources) : (w : Window) → SliceId → Reading w.Data
  | .recent => s.recent
  | .lifetime => s.lifetime

-- The bidders of most revenue at a publisher, at most so many.
abbrev AnchorSource := (publisher : String) → (limit : Nat) → Reading (List String)

end DemandRouting
