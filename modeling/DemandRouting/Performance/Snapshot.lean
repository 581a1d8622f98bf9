import DemandRouting.Performance.Counters
import DemandRouting.Slice

namespace DemandRouting

-- What is known of a bidder when it is scored, both windows blended into one.
structure Snapshot where
  bidder : String
  winRate : Float
  bidRate : Float
  averageBid : Float
  floorClearanceRate : Float
  averageLatencyMs : Float
  p95LatencyMs : Float
  totalRequests : UInt64
  recentRequests : UInt64
  lifetimeRequests : UInt64
  timeoutRate : Float
  errorRate : Float
  -- the win rates of either window alone
  recentWinRate : Float
  lifetimeWinRate : Float
  confidence : Float
  -- the slice that was read, none for the bidder as a whole
  key : Option SliceKey
  level : Nat
deriving DecidableEq

namespace Snapshot

-- Nothing is known.
def empty (bidder : String) (key : Option SliceKey) (level : Nat) : Snapshot where
  bidder := bidder
  winRate := 0.0
  bidRate := 0.0
  averageBid := 0.0
  floorClearanceRate := 0.0
  averageLatencyMs := 0.0
  p95LatencyMs := 0.0
  totalRequests := 0
  recentRequests := 0
  lifetimeRequests := 0
  timeoutRate := 0.0
  errorRate := 0.0
  recentWinRate := 0.0
  lifetimeWinRate := 0.0
  confidence := 0.0
  key := key
  level := level

def hasData (s : Snapshot) : Bool := 0 < s.totalRequests

-- The confidence in a number of samples, in steps.
def confidenceOf (samples : UInt64) : Float :=
  if samples = 0 then 0.0
  else if samples < 10 then 0.1
  else if samples < 100 then 0.4
  else if samples < 1000 then 0.7
  else if samples < 10000 then 0.9
  else 1.0

def shape : Shape Snapshot where
  blank := empty "" none 0
  fields := [
    .needed "bidder_code" .text (·.bidder) fun v r => { r with bidder := v },
    .needed "win_rate" .double (·.winRate) fun v r => { r with winRate := v },
    .needed "bid_rate" .double (·.bidRate) fun v r => { r with bidRate := v },
    .needed "avg_cpm" .double (·.averageBid) fun v r => { r with averageBid := v },
    .needed "floor_clearance_rate" .double (·.floorClearanceRate)
      fun v r => { r with floorClearanceRate := v },
    .needed "avg_latency_ms" .double (·.averageLatencyMs)
      fun v r => { r with averageLatencyMs := v },
    .needed "p95_latency_ms" .double (·.p95LatencyMs) fun v r => { r with p95LatencyMs := v },
    .needed "total_requests" .word64 (·.totalRequests) fun v r => { r with totalRequests := v },
    .needed "realtime_requests" .word64 (·.recentRequests)
      fun v r => { r with recentRequests := v },
    .needed "historical_requests" .word64 (·.lifetimeRequests)
      fun v r => { r with lifetimeRequests := v },
    .needed "timeout_rate" .double (·.timeoutRate) fun v r => { r with timeoutRate := v },
    .needed "error_rate" .double (·.errorRate) fun v r => { r with errorRate := v },
    .needed "realtime_win_rate" .double (·.recentWinRate)
      fun v r => { r with recentWinRate := v },
    .needed "historical_win_rate" .double (·.lifetimeWinRate)
      fun v r => { r with lifetimeWinRate := v },
    .needed "confidence" .double (·.confidence) fun v r => { r with confidence := v },
    .optional "lookup_key" SliceKey.shape.codec (·.key) fun v r => { r with key := v },
    .needed "fallback_level" .natural (·.level) fun v r => { r with level := v }]

end Snapshot
end DemandRouting
