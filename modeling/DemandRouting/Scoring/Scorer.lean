import DemandRouting.Opportunity.Basic
import DemandRouting.Performance.Snapshot
import DemandRouting.Scoring.Settings
import DemandRouting.Sources.Reading

namespace DemandRouting

structure ScoredBidder where
  bidder : String
  -- from 0 to 100
  total : Float
  components : PerComponent
  -- from 0 to 1
  confidence : Float
  key : Option SliceKey
  level : Nat
deriving DecidableEq

-- What the formulas read.
structure ScoringInput where
  winRate : Float
  bidRate : Float
  averageBid : Float
  floorClearanceRate : Float
  p95LatencyMs : Float
  recentWinRate : Float
  lifetimeWinRate : Float
  recentSamples : UInt64
  confidence : Float
  key : Option SliceKey
  level : Nat
deriving DecidableEq

namespace ScoringInput

def ofSnapshot (s : Snapshot) : ScoringInput where
  winRate := s.winRate
  bidRate := s.bidRate
  averageBid := s.averageBid
  floorClearanceRate := s.floorClearanceRate
  p95LatencyMs := s.p95LatencyMs
  recentWinRate := s.recentWinRate
  lifetimeWinRate := s.lifetimeWinRate
  recentSamples := s.recentRequests
  confidence := s.confidence
  key := s.key
  level := s.level

def ofHistory (lifetime : Lifetime) (recent : Recent) (key : Option SliceKey) (level : Nat) :
    ScoringInput where
  winRate := lifetime.counters.winRate
  bidRate := lifetime.counters.bidRate
  averageBid := lifetime.counters.averageBid
  floorClearanceRate := lifetime.floorClearanceRate
  p95LatencyMs := lifetime.p95LatencyMs
  recentWinRate := recent.counters.winRate
  lifetimeWinRate := lifetime.counters.winRate
  recentSamples := recent.samples
  confidence := lifetime.confidence
  key
  level

end ScoringInput

namespace ScoredBidder

-- The floor of the opportunity as a double.
def floorOf (o : Opportunity) : Option Float := o.effectiveFloor?.map Money.toFloat

def componentsOf (settings : ScoringSettings) (bidder : String) (o : Opportunity)
    (i : ScoringInput) : PerComponent where
  winRate := Component.winRateScore i.winRate
  bidRate := Component.bidRateScore i.bidRate
  cpm := Component.cpmScore i.averageBid (floorOf o)
  floorClearance := Component.floorClearanceScore i.floorClearanceRate
  latency := Component.latencyScore i.p95LatencyMs
  recency := Component.recencyScore i.recentWinRate i.lifetimeWinRate i.recentSamples
    settings.recencyMinSamples
  idMatch := Component.idMatchScore (settings.idPreferences.ofBidder bidder) o.userIds.keys

def ofInput (settings : ScoringSettings) (bidder : String) (o : Opportunity) (i : ScoringInput) :
    ScoredBidder :=
  let components := componentsOf settings bidder o i
  { bidder
    total := Weights.combine settings.weights components
    components
    confidence := Number.clamp 0.0 1.0 i.confidence
    key := i.key
    level := i.level }

def ofSnapshot (settings : ScoringSettings) (bidder : String) (o : Opportunity) (s : Snapshot) :
    ScoredBidder :=
  ofInput settings bidder o (.ofSnapshot s)

-- A level of the history that was settled on.
structure Level where
  key : SliceKey
  lifetime : Lifetime
  level : Nat
  -- the time that the reads up to here took
  delay : Nat

-- Read level after level, the next one being number `level`, and stop where there are enough
-- samples or nowhere else to go.
def settle? (minSamples : UInt64) (sources : Sources) (bidder : String) (level delay : Nat) :
    List SliceKey → Option Level
  | [] => none
  | key :: broader =>
    let read := sources.lifetime ⟨bidder, some key⟩
    let lifetime := read.orEmpty
    let here : Level := ⟨key, lifetime, level, delay + read.delay⟩
    if minSamples ≤ lifetime.samples then some here
    else (settle? minSamples sources bidder (level + 1) here.delay broader).or (some here)

-- Nothing is known and nothing was read.
def noInput : ScoringInput := .ofSnapshot (.empty "" none 0)

-- A score, the time that reading for it takes, and the number of reads.
structure Fetched where
  score : ScoredBidder
  delay : Nat
  reads : Nat

-- Score from the sources; the trend is left out where `recent` is not asked for.
def fetch (settings : ScoringSettings) (sources : Sources) (withRecent : Bool) (bidder : String)
    (o : Opportunity) : Fetched :=
  match settle? settings.minSamples sources bidder 0 0 (SliceKey.ofOpportunity o).fallback with
  | none => ⟨ofInput settings bidder o noInput, 0, 0⟩
  | some l =>
    let read : Reading Recent :=
      if withRecent then sources.recent ⟨bidder, some l.key⟩ else .immediate {}
    let input := ScoringInput.ofHistory l.lifetime read.orEmpty (some l.key) l.level
    ⟨ofInput settings bidder o input, l.delay + read.delay,
      l.level + 1 + if withRecent then 1 else 0⟩

-- Whether the first may stand before the second: its total is not the lower one.
def precedes (a b : ScoredBidder) : Bool := Number.rank b.total ≤ Number.rank a.total

-- Best first; equal totals stay in order.
def bestFirst (scores : List ScoredBidder) : List ScoredBidder := scores.mergeSort precedes

def ofSnapshots (settings : ScoringSettings) (o : Opportunity) (snapshots : List Snapshot) :
    List ScoredBidder :=
  bestFirst (snapshots.map fun s => ofSnapshot settings s.bidder o s)

-- All bidders are read for at once.
def fetchAll (settings : ScoringSettings) (sources : Sources) (withRecent : Bool)
    (bidders : List String) (o : Opportunity) : List Fetched :=
  bidders.map (fetch settings sources withRecent · o)

def ofSources (settings : ScoringSettings) (sources : Sources) (withRecent : Bool)
    (bidders : List String) (o : Opportunity) : List ScoredBidder :=
  bestFirst ((fetchAll settings sources withRecent bidders o).map (·.score))

def shape : Shape ScoredBidder where
  blank := ⟨"", 0.0, .all 0.0, 0.0, none, 0⟩
  fields := [
    .needed "bidder_code" .text (·.bidder) fun v r => { r with bidder := v },
    .needed "total_score" .double (·.total) fun v r => { r with total := v },
    .needed "components" (PerComponent.shape (.all 0.0)).codec (·.components)
      fun v r => { r with components := v },
    .needed "confidence" .double (·.confidence) fun v r => { r with confidence := v },
    .optional "lookup_key_used" SliceKey.shape.codec (·.key) fun v r => { r with key := v },
    .needed "fallback_level" .natural (·.level) fun v r => { r with level := v }]

end ScoredBidder
end DemandRouting
