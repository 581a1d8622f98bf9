import DemandRouting.Json.Shape
import DemandRouting.Money.Double
import DemandRouting.Money.Text

namespace DemandRouting

structure Counters where
  requests : UInt64 := 0
  bids : UInt64 := 0
  wins : UInt64 := 0
  timeouts : UInt64 := 0
  errors : UInt64 := 0
  totalBidValue : Money := .zero
  totalWinValue : Money := .zero
  totalLatencyMs : UInt64 := 0
deriving DecidableEq, Inhabited

-- A quotient that is zero where there is nothing to divide by.
def ratio (numerator denominator : Float) : Float :=
  if denominator == 0.0 then 0.0 else numerator / denominator

namespace Counters

def isEmpty (c : Counters) : Bool := c.requests == 0

-- Fraction of requests that were answered with a bid.
def bidRate (c : Counters) : Float := ratio c.bids.toFloat c.requests.toFloat

-- Fraction of bids that won.
def winRate (c : Counters) : Float := ratio c.wins.toFloat c.bids.toFloat

def averageBid (c : Counters) : Float := ratio c.totalBidValue.toFloat c.bids.toFloat

def averageWin (c : Counters) : Float := ratio c.totalWinValue.toFloat c.wins.toFloat

def averageLatency (c : Counters) : Float := ratio c.totalLatencyMs.toFloat c.requests.toFloat

def timeoutRate (c : Counters) : Float := ratio c.timeouts.toFloat c.requests.toFloat

def errorRate (c : Counters) : Float := ratio c.errors.toFloat c.requests.toFloat

-- None where a sum of money is too large.
def add? (a b : Counters) : Option Counters := do
  let totalBidValue ← a.totalBidValue.add? b.totalBidValue
  let totalWinValue ← a.totalWinValue.add? b.totalWinValue
  return {
    requests := a.requests + b.requests
    bids := a.bids + b.bids
    wins := a.wins + b.wins
    timeouts := a.timeouts + b.timeouts
    errors := a.errors + b.errors
    totalBidValue
    totalWinValue
    totalLatencyMs := a.totalLatencyMs + b.totalLatencyMs }

def shape : Shape Counters where
  blank := {}
  fields := [
    .needed "requests" .word64 (·.requests) fun v r => { r with requests := v },
    .needed "bids" .word64 (·.bids) fun v r => { r with bids := v },
    .needed "wins" .word64 (·.wins) fun v r => { r with wins := v },
    .needed "timeouts" .word64 (·.timeouts) fun v r => { r with timeouts := v },
    .needed "errors" .word64 (·.errors) fun v r => { r with errors := v },
    .needed "total_bid_value" Money.codec (·.totalBidValue) fun v r => { r with totalBidValue := v },
    .needed "total_win_value" Money.codec (·.totalWinValue) fun v r => { r with totalWinValue := v },
    .needed "total_latency_ms" .word64 (·.totalLatencyMs)
      fun v r => { r with totalLatencyMs := v }]

end Counters

-- What the short window says of a slice.
structure Recent where
  counters : Counters := {}
  -- the 95th percentile of the latency, as the source reports it
  p95LatencyMs : Float := 0.0
deriving DecidableEq, Inhabited

namespace Recent

def samples (r : Recent) : UInt64 := r.counters.requests

def shape : Shape Recent where
  blank := {}
  fields := [
    .needed "counters" Counters.shape.codec (·.counters) fun v r => { r with counters := v },
    .needed "p95_latency_ms" .double (·.p95LatencyMs) fun v r => { r with p95LatencyMs := v }]

end Recent

-- What the whole history says of a slice.
structure Lifetime where
  counters : Counters := {}
  -- bids at or above the floor of their auction
  floorClearances : UInt64 := 0
  p95LatencyMs : Float := 0.0
deriving DecidableEq, Inhabited

namespace Lifetime

def samples (l : Lifetime) : UInt64 := l.counters.requests

-- Fraction of bids that cleared the floor.
def floorClearanceRate (l : Lifetime) : Float :=
  ratio l.floorClearances.toFloat l.counters.bids.toFloat

-- On a scale of magnitudes: none up to a hundred requests, full from a hundred thousand.
def confidenceOf (requests : UInt64) : Float :=
  let n := (max requests 1).toFloat
  Number.clamp 0.0 1.0 ((n.log10 - 2.0) / 3.0)

def confidence (l : Lifetime) : Float := confidenceOf l.samples

def shape : Shape Lifetime where
  blank := {}
  fields := [
    .needed "counters" Counters.shape.codec (·.counters) fun v r => { r with counters := v },
    .needed "floor_clearances" .word64 (·.floorClearances)
      fun v r => { r with floorClearances := v },
    .needed "p95_latency_ms" .double (·.p95LatencyMs) fun v r => { r with p95LatencyMs := v }]

end Lifetime
end DemandRouting
