import DemandRouting.Performance.Ledger
import DemandRouting.Sources.Reading

namespace DemandRouting.Ledger

-- Whether the totals of the short window fit.
def isReadable (l : Ledger) (now : Timestamp) (window : Int) (s : SliceId) : Bool :=
  (l.readRecent? now window s).isSome

def sources (l : Ledger) (now : Timestamp) (window : Int) : Sources where
  recent s := .immediate ((l.readRecent? now window s).getD {})
  lifetime s := .immediate (l.readLifetime s)

def anchors (l : Ledger) : AnchorSource := fun publisher limit =>
  .immediate (l.topBidders publisher limit)

end DemandRouting.Ledger
