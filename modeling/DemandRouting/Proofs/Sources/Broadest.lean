import DemandRouting.Proofs.Performance.RollUp
import DemandRouting.Proofs.Performance.Window
import DemandRouting.Proofs.Sources.Levels
import DemandRouting.Sources.Recorded

namespace DemandRouting

namespace SliceKey

end SliceKey

namespace Ledger

section Sublist

variable {s t : SliceId} (h : ∀ e, s.Covers e → t.Covers e) (history : List Recording)

include h

end Sublist

-- The requests that the two windows of a slice count. One that is in both is counted twice.
def counted (now : Timestamp) (window : Int) (history : List Recording) (s : SliceId) : Nat :=
  Counter.requests.total (shown now window s history) + Counter.requests.total (seen s history)

section Replay

variable {window : Int} {history : List Recording} {l : Ledger}
  (hreplay : replay window history = some l)

include hreplay

end Replay

end Ledger

namespace Snapshot

end Snapshot
end DemandRouting
