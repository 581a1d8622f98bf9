import DemandRouting.Json.Shape
import DemandRouting.Performance.Snapshot

namespace DemandRouting

structure BlendSettings where
  recentWeight : Float := 0.6
  lifetimeWeight : Float := 0.4
  -- samples that a slice needs to be read instead of a broader one
  minSamples : UInt64 := 100
  fetchTimeoutMs : UInt64 := 20
deriving DecidableEq, Inhabited

namespace BlendSettings

inductive Fault where
  | negativeWeight (name : String) (weight : Float)
  | noPositiveWeight
  | zeroTimeout
deriving DecidableEq

def Fault.message : Fault → String
  | .negativeWeight name weight =>
    "Source weight must be non-negative: " ++ name ++ " = " ++ Number.message weight
  | .noPositiveWeight => "At least one source weight must be positive"
  | .zeroTimeout => "Fetch timeout must be positive"

-- A weight below zero, or none at all.
def isBadWeight (w : Float) : Bool := w < 0.0 || w.isNaN

def validate (s : BlendSettings) : Except Fault Unit :=
  if isBadWeight s.recentWeight then .error (.negativeWeight "realtime_weight" s.recentWeight)
  else if isBadWeight s.lifetimeWeight then
    .error (.negativeWeight "historical_weight" s.lifetimeWeight)
  else if s.recentWeight + s.lifetimeWeight ≤ 0.0 then .error .noPositiveWeight
  else if s.fetchTimeoutMs = 0 then .error .zeroTimeout
  else .ok ()

def shape : Shape BlendSettings where
  blank := {}
  fields := [
    .of "realtime_weight" .double (·.recentWeight) fun v r => { r with recentWeight := v },
    .of "historical_weight" .double (·.lifetimeWeight) fun v r => { r with lifetimeWeight := v },
    .of "min_sample_size" .word64 (·.minSamples) fun v r => { r with minSamples := v },
    .of "fetch_timeout_ms" .word64 (·.fetchTimeoutMs) fun v r => { r with fetchTimeoutMs := v }]

end BlendSettings

namespace Snapshot

-- The weights of the two windows, which sum to one; none if there is nothing to weigh.
def weights? (settings : BlendSettings) (recent : Recent) (lifetime : Lifetime) :
    Option (Float × Float) :=
  let r := if 0 < recent.samples then settings.recentWeight else 0.0
  let l := if 0 < lifetime.samples then settings.lifetimeWeight else 0.0
  let sum := r + l
  if sum ≤ 0.0 then none else some (r / sum, l / sum)

def blend (settings : BlendSettings) (bidder : String) (recent : Recent) (lifetime : Lifetime)
    (key : Option SliceKey) (level : Nat) : Snapshot :=
  match weights? settings recent lifetime with
  | none => empty bidder key level
  | some (wr, wl) =>
    let weighted := fun (r l : Float) => wr * r + wl * l
    let rc := recent.counters
    let lc := lifetime.counters
    let total := recent.samples + lifetime.samples
    { bidder
      winRate := weighted rc.winRate lc.winRate
      bidRate := weighted rc.bidRate lc.bidRate
      averageBid := weighted rc.averageBid lc.averageBid
      floorClearanceRate := lifetime.floorClearanceRate
      averageLatencyMs := weighted rc.averageLatency lc.averageLatency
      p95LatencyMs := weighted recent.p95LatencyMs lifetime.p95LatencyMs
      totalRequests := total
      recentRequests := recent.samples
      lifetimeRequests := lifetime.samples
      timeoutRate := rc.timeoutRate * wr
      errorRate := rc.errorRate * wr
      recentWinRate := rc.winRate
      lifetimeWinRate := lc.winRate
      confidence := confidenceOf total
      key
      level }

end Snapshot
end DemandRouting
