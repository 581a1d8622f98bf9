import DemandRouting.Routing.Router
import DemandRouting.Sources.Cache
import DemandRouting.Sources.Fault
import DemandRouting.Sources.Recorded

namespace DemandRouting

-- The whole path under a clock that is set by hand, with faults and caches in front of the ledger.
structure Rehearsal where
  clock : Timestamp
  -- seconds that the short window reaches back
  window : Int := 900
  -- milliseconds for which the caches keep a value
  ttl : Nat := 1000
  ledger : Ledger := {}
  faults : FaultTable := {}
  caches : Caches := {}
  -- milliseconds spent waiting
  elapsed : Nat := 0
  -- reads that a fault could have hit
  reads : Nat := 0

namespace Rehearsal

def sources (r : Rehearsal) : Sources := r.faults.onSources (r.ledger.sources r.clock r.window)

def anchors (r : Rehearsal) : AnchorSource := r.faults.onAnchors r.ledger.anchors

def spend (r : Rehearsal) (milliseconds reads : Nat) : Rehearsal :=
  { r with elapsed := r.elapsed + milliseconds, reads := r.reads + reads }

def advance (r : Rehearsal) (seconds : Int) : Rehearsal :=
  { r with clock := r.clock.addSeconds seconds }

def record? (r : Rehearsal) (e : Event) : Option Rehearsal :=
  (r.ledger.record? r.clock r.window e).map ({ r with ledger := · })

def seedLifetime (r : Rehearsal) (s : SliceId) (totals : Lifetime) : Rehearsal :=
  { r with ledger := r.ledger.seedLifetime s totals }

def seedRecent (r : Rehearsal) (s : SliceId) (totals : Recent) : Rehearsal :=
  { r with ledger := r.ledger.seedRecent r.clock s totals }

def credit? (r : Rehearsal) (publisher bidder : String) (amount : Money) : Option Rehearsal :=
  (r.ledger.credit? publisher bidder amount).map ({ r with ledger := · })

-- Both windows of a slice as the ledger has them, if the totals fit.
def peek? (r : Rehearsal) (s : SliceId) : Option (Lifetime × Recent) :=
  (r.ledger.readRecent? r.clock r.window s).map (r.ledger.readLifetime s, ·)

-- Whether a read of the short window, unless a fault keeps it away, finds totals that fit.
def isReadable (r : Rehearsal) (s : SliceId) : Bool :=
  ((r.faults.fault? .recent s.bidder).any (·.failure.isSome)) ||
    r.ledger.isReadable r.clock r.window s

def cached (r : Rehearsal) : CachedSources := ⟨r.ttl, r.caches, r.elapsed⟩

def read (r : Rehearsal) (w : Window) (s : SliceId) : Except SourceError w.Data × Rehearsal :=
  let c := r.cached.read w s (r.sources.of w s)
  (c.result,
    { r with
      caches := r.caches.put w c.cache
      elapsed := c.time
      reads := r.reads + c.asked.toNat })

def readLifetime (r : Rehearsal) (s : SliceId) : Except SourceError Lifetime × Rehearsal :=
  r.read .lifetime s

def readRecent (r : Rehearsal) (s : SliceId) : Except SourceError Recent × Rehearsal :=
  r.read .recent s

def gather (r : Rehearsal) (settings : BlendSettings) (bidders : List String)
    (o : Option Opportunity) (cancel : Option Nat) : List Snapshot × Rehearsal :=
  (Snapshot.gatherAll settings r.sources bidders o cancel,
    r.spend (Snapshot.gatherAllDelay settings r.sources bidders o cancel)
      (Snapshot.readCount bidders o))

def score (r : Rehearsal) (settings : ScoringSettings) (withRecent : Bool)
    (bidders : List String) (o : Opportunity) : List ScoredBidder × Rehearsal :=
  let fetched := ScoredBidder.fetchAll settings r.sources withRecent bidders o
  (ScoredBidder.bestFirst (fetched.map (·.score)),
    r.spend ((fetched.map (·.delay)).foldl max 0) ((fetched.map (·.reads)).foldl (· + ·) 0))

def route (r : Rehearsal) (router : Router) (fresh : FreshIds) (entropy : UInt64)
    (request : OpenRtb.BidRequest) (candidates : List String) (cancel : Option Nat) :
    Decision × Rehearsal :=
  let routed := router.route r.clock fresh entropy request candidates cancel
  (routed.decision, r.spend routed.delay routed.reads)

end Rehearsal
end DemandRouting
