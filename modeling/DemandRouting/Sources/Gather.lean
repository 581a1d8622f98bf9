import DemandRouting.Performance.Blend
import DemandRouting.Sources.Reading

namespace DemandRouting.Snapshot

-- The slices to read, most specific first; the bidder as a whole if there is no opportunity.
def levels (o : Option Opportunity) : List (Option SliceKey) :=
  match o with
  | some o => (SliceKey.ofOpportunity o).fallback.map some
  | none => [none]

-- The two windows of a slice, and when both are there.
structure LevelRead where
  key : Option SliceKey
  recent : Recent
  lifetime : Lifetime
  delay : Nat

def readLevel (settings : BlendSettings) (sources : Sources) (bidder : String)
    (key : Option SliceKey) : LevelRead :=
  let recent := (sources.recent ⟨bidder, key⟩).within settings.fetchTimeoutMs
  let lifetime := (sources.lifetime ⟨bidder, key⟩).within settings.fetchTimeoutMs
  ⟨key, recent.orEmpty, lifetime.orEmpty, max recent.delay lifetime.delay⟩

def LevelRead.samples (r : LevelRead) : UInt64 := r.recent.samples + r.lifetime.samples

-- The place of the first read with enough samples, or of the last read.
def chooseLevel (minSamples : UInt64) (reads : List LevelRead) : Nat :=
  (reads.findIdx? fun r => minSamples ≤ r.samples).getD (reads.length - 1)

-- A snapshot and the time that gathering it takes.
structure Gathered where
  snapshot : Snapshot
  delay : Nat

def ofReads (settings : BlendSettings) (bidder : String) (reads : List LevelRead) : Snapshot :=
  let level := chooseLevel settings.minSamples reads
  match reads[level]? with
  | some r => blend settings bidder r.recent r.lifetime r.key level
  | none => empty bidder none 0

def gather (settings : BlendSettings) (sources : Sources) (bidder : String)
    (o : Option Opportunity) : Gathered :=
  let reads := (levels o).map (readLevel settings sources bidder)
  ⟨ofReads settings bidder reads, (reads.map (·.delay)).foldl max 0⟩

-- What has come of a bidder, and the bidder's place in the list.
structure Arrival where
  place : Nat
  gathered : Gathered

-- What comes exactly when gathering is cancelled is still in time.
def Arrival.inTime (cancel : Option Nat) (a : Arrival) : Bool := cancel.all (a.gathered.delay ≤ ·)

-- Put one arrival after the other at its place, up to the first that is too late.
def takeIn (cancel : Option Nat) (slots : List (Option Snapshot)) :
    List Arrival → List (Option Snapshot)
  | [] => slots
  | a :: rest =>
    if a.inTime cancel then takeIn cancel (slots.set a.place (some a.gathered.snapshot)) rest
    else slots

-- A snapshot for every bidder, an empty one where nothing has come in.
def collect (bidders : List String) (o : Option Opportunity) (cancel : Option Nat)
    (arrivals : List Arrival) : List Snapshot :=
  let slots := takeIn cancel (bidders.map fun _ => none) arrivals
  List.zipWith (fun slot bidder => slot.getD (empty bidder (o.map SliceKey.ofOpportunity) 0))
    slots bidders

-- All bidders are gathered for at once; each place in the list does its own reads.
def arrivals (settings : BlendSettings) (sources : Nat → Sources) (bidders : List String)
    (o : Option Opportunity) : List Arrival :=
  bidders.mapIdx fun place bidder => ⟨place, gather settings (sources place) bidder o⟩

def Arrival.notAfter (a b : Arrival) : Bool := a.gathered.delay ≤ b.gathered.delay

-- The arrivals are taken in as they come.
def gatherEach (settings : BlendSettings) (sources : Nat → Sources) (bidders : List String)
    (o : Option Opportunity) (cancel : Option Nat) : List Snapshot :=
  collect bidders o cancel ((arrivals settings sources bidders o).mergeSort Arrival.notAfter)

-- The snapshots that are there at the time of cancellation, empty ones for the other bidders.
def gatherAll (settings : BlendSettings) (sources : Sources) (bidders : List String)
    (o : Option Opportunity) (cancel : Option Nat) : List Snapshot :=
  gatherEach settings (fun _ => sources) bidders o cancel

-- When gathering for all bidders ends.
def gatherAllDelay (settings : BlendSettings) (sources : Sources) (bidders : List String)
    (o : Option Opportunity) (cancel : Option Nat) : Nat :=
  let finished := (bidders.map fun b => (gather settings sources b o).delay).foldl max 0
  match cancel with
  | some c => min c finished
  | none => finished

-- Both windows of every level are read for every bidder.
def readCount (bidders : List String) (o : Option Opportunity) : Nat :=
  2 * (levels o).length * bidders.length

end DemandRouting.Snapshot
