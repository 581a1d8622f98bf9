import DemandRouting.Assoc
import DemandRouting.Performance.Counters
import DemandRouting.Performance.Outcome
import DemandRouting.Performance.Percentile

namespace DemandRouting

-- One recorded outcome.
inductive Event where
  | request (o : RequestOutcome)
  | win (o : WinOutcome)
deriving DecidableEq

namespace Event

def bidder : Event → String
  | request o => o.bidder
  | win o => o.bidder

def key : Event → SliceKey
  | request o => o.key
  | win o => o.key

def timestamp : Event → Timestamp
  | request o => o.timestamp
  | win o => o.timestamp

def minute (e : Event) : Int := e.timestamp.minute

def latency? : Event → Option UInt64
  | request o => some o.latencyMs
  | win _ => none

-- One for a bid at or above its floor.
def clearance : Event → UInt64
  | request o => if o.clearedFloor then 1 else 0
  | win _ => 0

-- Add an amount that may be missing; a missing one leaves the total as it is.
def addBid? (total : Money) : Option Money → Option Money
  | some bid => total.add? bid
  | none => some total

def count (b : Bool) : UInt64 := if b then 1 else 0

def addTo? (c : Counters) : Event → Option Counters
  | request o => do
    let totalBidValue ← addBid? c.totalBidValue o.bid
    return { c with
      requests := c.requests + 1
      bids := c.bids + count o.bid.isSome
      timeouts := c.timeouts + count o.timedOut
      errors := c.errors + count o.errored
      totalBidValue
      totalLatencyMs := c.totalLatencyMs + o.latencyMs }
  | win o => do
    let totalWinValue ← c.totalWinValue.add? o.price
    return { c with wins := c.wins + 1, totalWinValue }

def slices (e : Event) : List SliceId :=
  e.key.fallback.map (⟨e.bidder, some ·⟩) ++ [⟨e.bidder, none⟩]

end Event

-- Lifetime totals with the latencies behind the percentile, the latest first.
structure LifetimeEntry where
  totals : Lifetime := {}
  latencies : List UInt64 := []
deriving Inhabited

namespace LifetimeEntry

def maxLatencies : Nat := 1024

def add? (l : LifetimeEntry) (e : Event) : Option LifetimeEntry := do
  let counters ← e.addTo? l.totals.counters
  return {
    totals := { l.totals with
      counters
      floorClearances := l.totals.floorClearances + e.clearance }
    latencies := (e.latency?.toList ++ l.latencies).take maxLatencies }

-- The percentile of the latencies; without any, the one that was seeded.
def read (l : LifetimeEntry) : Lifetime :=
  if l.latencies.isEmpty then l.totals
  else { l.totals with p95LatencyMs := Percentile.p95 l.latencies }

end LifetimeEntry

-- The outcomes of one minute.
structure Bucket where
  minute : Int
  counters : Counters := {}
  latencies : List UInt64 := []
  -- the percentile of a bucket that was seeded
  reportedP95 : Option Float := none

namespace Bucket

def add? (b : Bucket) (e : Event) : Option Bucket := do
  let counters ← e.addTo? b.counters
  return { b with counters, latencies := e.latency?.toList ++ b.latencies }

-- Put an outcome into the bucket of its minute, a new one if there is none.
def deposit? (e : Event) : List Bucket → Option (List Bucket)
  | [] => do return [← add? { minute := e.minute } e]
  | b :: rest =>
    if b.minute < e.minute then do return b :: (← deposit? e rest)
    else if b.minute = e.minute then do return (← b.add? e) :: rest
    else do return (← add? { minute := e.minute } e) :: b :: rest

-- Buckets before `oldest` are let go; an outcome before it is not recorded.
def update? (oldest : Int) (e : Event) (buckets : List Bucket) : Option (List Bucket) :=
  let kept := buckets.dropWhile (·.minute < oldest)
  if e.minute < oldest then some kept else deposit? e kept

-- The greater one; NaN gives way to the other.
def greater (a b : Float) : Float := if a < b then b else a

-- The totals of the buckets from `oldest` on.
def read? (oldest : Int) (buckets : List Bucket) : Option Recent := do
  let visible := buckets.filter (oldest ≤ ·.minute)
  let counters ← visible.foldlM (fun c b => c.add? b.counters) {}
  let latencies := visible.flatMap (·.latencies)
  let reported := (visible.filterMap (·.reportedP95)).foldl greater 0.0
  return ⟨counters, if latencies.isEmpty then reported else Percentile.p95 latencies⟩

end Bucket

-- What changes a ledger has no result where a sum of money is too large.
structure Ledger where
  lifetime : Assoc SliceId LifetimeEntry := {}
  recent : Assoc SliceId (List Bucket) := {}
  revenue : Assoc String (Assoc String Money) := {}

namespace Ledger

-- The minute from which on the window reaches. A window is of so many whole seconds: one with a
-- fraction of a second would reach back less far from within a leap second than from just after it.
def oldestMinute (now : Timestamp) (window : Int) : Int := (now.addSeconds (-window)).minute

def addToSlice? (oldest : Int) (e : Event) (l : Ledger) (s : SliceId) : Option Ledger := do
  let entry ← (l.lifetime.getD s {}).add? e
  let buckets ← Bucket.update? oldest e (l.recent.getD s [])
  return { l with lifetime := l.lifetime.set s entry, recent := l.recent.set s buckets }

-- Credit revenue to a bidder.
def credit? (l : Ledger) (publisher bidder : String) (amount : Money) : Option Ledger := do
  let bidders := l.revenue.getD publisher {}
  let total ← (bidders.getD bidder .zero).add? amount
  return { l with revenue := l.revenue.set publisher (bidders.set bidder total) }

-- Wins count as revenue of the publisher that their key names.
def creditWin? (l : Ledger) : Event → Option Ledger
  | .request _ => some l
  | .win o =>
    match o.key.publisher with
    | some p => l.credit? p o.bidder o.price
    | none => some l

def record? (now : Timestamp) (window : Int) (l : Ledger) (e : Event) : Option Ledger := do
  (← e.slices.foldlM (addToSlice? (oldestMinute now window) e) l).creditWin? e

-- Replace the lifetime totals of a slice.
def seedLifetime (l : Ledger) (s : SliceId) (totals : Lifetime) : Ledger :=
  { l with lifetime := l.lifetime.set s { totals } }

-- Replace the buckets of a slice by a single one of the current minute.
def seedRecent (l : Ledger) (now : Timestamp) (s : SliceId) (r : Recent) : Ledger :=
  let bucket : Bucket :=
    { minute := now.minute, counters := r.counters, reportedP95 := some r.p95LatencyMs }
  { l with recent := l.recent.set s [bucket] }

def readLifetime (l : Ledger) (s : SliceId) : Lifetime := (l.lifetime.getD s {}).read

def readRecent? (l : Ledger) (now : Timestamp) (window : Int) (s : SliceId) : Option Recent :=
  Bucket.read? (oldestMinute now window) (l.recent.getD s [])

-- More revenue first; equal revenue in the order of the codes.
def ranksBefore (a b : String × Money) : Bool :=
  match a.2.compare b.2 with
  | .gt => true
  | .eq => a.1 ≤ b.1
  | .lt => false

-- Bidders with their revenue, to be taken off one after the other.
abbrev RevenueQueue := List (String × Money)

-- The first in rank, and what remains.
def popFirst? : RevenueQueue → Option ((String × Money) × RevenueQueue)
  | [] => none
  | e :: queue =>
    match popFirst? queue with
    | none => some (e, [])
    | some (first, rest) =>
      if ranksBefore e first then some (e, queue) else some (first, e :: rest)

-- So many bidders off the queue, or all if there are less.
def takeOff (pop? : RevenueQueue → Option ((String × Money) × RevenueQueue)) :
    Nat → RevenueQueue → List String
  | 0, _ => []
  | limit + 1, queue =>
    match pop? queue with
    | some (first, rest) => first.1 :: takeOff pop? limit rest
    | none => []

-- The publisher's bidders of most revenue, with any queue that pops them.
def topBiddersBy (pop? : RevenueQueue → Option ((String × Money) × RevenueQueue)) (l : Ledger)
    (publisher : String) (limit : Nat) : List String :=
  takeOff pop? limit (l.revenue.getD publisher {}).entries

def topBidders (l : Ledger) (publisher : String) (limit : Nat) : List String :=
  topBiddersBy popFirst? l publisher limit

end Ledger
end DemandRouting
