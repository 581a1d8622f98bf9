import DemandRouting.Number.Binary

namespace DemandRouting

inductive Component where
  | winRate
  | bidRate
  | cpm
  | floorClearance
  | latency
  | recency
  | idMatch
deriving DecidableEq, Repr

namespace Component

-- In canonical order.
def all : List Component :=
  [.winRate, .bidRate, .cpm, .floorClearance, .latency, .recency, .idMatch]

def name : Component → String
  | .winRate => "win_rate"
  | .bidRate => "bid_rate"
  | .cpm => "cpm"
  | .floorClearance => "floor_clearance"
  | .latency => "latency"
  | .recency => "recency"
  | .idMatch => "id_match"

def ofName? (s : String) : Option Component := all.find? (·.name == s)

-- A value between 0 and 100; NaN counts as nothing.
def bounded (x : Float) : Float := if x.isNaN then 0.0 else Number.clamp 0.0 100.0 x

-- Where there is nothing to judge by.
def neutral : Float := 50.0

-- A win rate of a fifth is as good as it gets.
def winRateScore (winRate : Float) : Float := bounded (winRate * 500.0)

def bidRateScore (bidRate : Float) : Float := bounded (bidRate * 125.0)

-- Half of the points at the floor, and all of them half a floor above it.
def cpmScore (averageBid : Float) (floor : Option Float) : Float :=
  match floor.filter (0.0 < ·) with
  | none => bounded (averageBid * 20.0)
  | some floor =>
    if averageBid < floor then bounded (50.0 * averageBid / floor)
    else bounded (50.0 + 100.0 * (averageBid - floor) / floor)

def floorClearanceScore (rate : Float) : Float := bounded (rate * 100.0)

-- All points up to 100 ms and none from 500 ms.
def latencyScore (p95 : Float) : Float :=
  if p95 ≤ 100.0 then 100.0
  else if 500.0 ≤ p95 then 0.0
  else bounded (100.0 - (p95 - 100.0) / 4.0)

-- The trend from the long window to the short one, between a half and double.
def trend (recent lifetime : Float) : Float :=
  if 0.0 < lifetime then recent / lifetime
  else if 0.0 < recent then 2.0
  else 1.0

def recencyScore (recent lifetime : Float) (samples minSamples : UInt64) : Float :=
  if samples < minSamples then neutral
  else bounded (50.0 * Number.clamp 0.5 2.0 (trend recent lifetime))

-- The share of the preferred types of id that are available.
def idMatchScore (preferred available : List String) : Float :=
  if preferred.isEmpty then neutral
  else if available.isEmpty then 0.0
  else
    let matched := (preferred.filter available.contains).length
    bounded (100.0 * Float.ofNat matched / Float.ofNat preferred.length)

end Component

-- A number for every component.
structure PerComponent where
  winRate : Float
  bidRate : Float
  cpm : Float
  floorClearance : Float
  latency : Float
  recency : Float
  idMatch : Float
deriving DecidableEq

namespace PerComponent

-- The same number for every component.
def all (x : Float) : PerComponent := ⟨x, x, x, x, x, x, x⟩

def get (p : PerComponent) : Component → Float
  | .winRate => p.winRate
  | .bidRate => p.bidRate
  | .cpm => p.cpm
  | .floorClearance => p.floorClearance
  | .latency => p.latency
  | .recency => p.recency
  | .idMatch => p.idMatch

def set (p : PerComponent) (x : Float) : Component → PerComponent
  | .winRate => { p with winRate := x }
  | .bidRate => { p with bidRate := x }
  | .cpm => { p with cpm := x }
  | .floorClearance => { p with floorClearance := x }
  | .latency => { p with latency := x }
  | .recency => { p with recency := x }
  | .idMatch => { p with idMatch := x }

-- The numbers beside their components, in canonical order.
def pairs (p : PerComponent) : List (Component × Float) := Component.all.map fun c => (c, p.get c)

end PerComponent
end DemandRouting
