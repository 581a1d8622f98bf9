import DemandRouting.Assoc
import DemandRouting.Sources.Reading

namespace DemandRouting

structure Fault where
  -- the read waits so many milliseconds
  delay : Nat := 0
  -- and then fails, if a failure is given
  failure : Option SourceError := none
deriving DecidableEq

inductive Side where
  | recent
  | lifetime
  | anchors
deriving DecidableEq, Repr

namespace Fault

def before {α : Type} (fault : Fault) (r : Reading α) : Reading α where
  result := match fault.failure with
    | some e => .error e
    | none => r.result
  delay := fault.delay + match fault.failure with
    | some _ => 0
    | none => r.delay

end Fault

-- A fault stands for one bidder (one publisher for anchors), or for everyone without one.
structure FaultTable where
  faults : Assoc (Side × String) (Option Fault) := {}

namespace FaultTable

-- Stands for everyone.
def everyone : String := "*"

def set (t : FaultTable) (side : Side) (who : String) (fault : Fault) : FaultTable :=
  ⟨t.faults.set (side, who) (some fault)⟩

def clear (t : FaultTable) (side : Side) (who : String) : FaultTable :=
  ⟨t.faults.set (side, who) none⟩

def entry? (t : FaultTable) (side : Side) (who : String) : Option Fault :=
  (t.faults.get? (side, who)).join

def fault? (t : FaultTable) (side : Side) (who : String) : Option Fault :=
  t.entry? side who <|> t.entry? side everyone

def disturb {α : Type} (t : FaultTable) (side : Side) (who : String) (r : Reading α) : Reading α :=
  match t.fault? side who with
  | some f => f.before r
  | none => r

def onSources (t : FaultTable) (s : Sources) : Sources where
  recent id := t.disturb .recent id.bidder (s.recent id)
  lifetime id := t.disturb .lifetime id.bidder (s.lifetime id)

def onAnchors (t : FaultTable) (a : AnchorSource) : AnchorSource := fun publisher limit =>
  t.disturb .anchors publisher (a publisher limit)

end FaultTable
end DemandRouting
