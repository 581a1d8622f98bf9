import DemandRouting.Slice

namespace DemandRouting

structure RequestOutcome where
  bidder : String
  key : SliceKey
  -- nothing for an answer without a bid
  bid : Option Money := none
  floor : Option Money := none
  latencyMs : UInt64 := 0
  timedOut : Bool := false
  errored : Bool := false
  timestamp : Timestamp
deriving DecidableEq

-- Whether a bid meets a floor; without a floor every bid does.
def clearsFloor (bid floor : Option Money) : Bool :=
  match bid, floor with
  | some bid, some floor => floor.le bid
  | some _, none => true
  | none, _ => false

namespace RequestOutcome

def clearedFloor (o : RequestOutcome) : Bool := clearsFloor o.bid o.floor

def shape : Shape RequestOutcome where
  blank := { bidder := "", key := SliceKey.shape.blank, timestamp := default }
  fields := [
    .needed "bidder_code" .text (·.bidder) fun v r => { r with bidder := v },
    .needed "key" SliceKey.shape.codec (·.key) fun v r => { r with key := v },
    .optional "bid_cpm" Money.codec (·.bid) fun v r => { r with bid := v },
    .optional "floor_price" Money.codec (·.floor) fun v r => { r with floor := v },
    .needed "latency_ms" .word64 (·.latencyMs) fun v r => { r with latencyMs := v },
    .needed "timed_out" .bool (·.timedOut) fun v r => { r with timedOut := v },
    .needed "errored" .bool (·.errored) fun v r => { r with errored := v },
    .needed "timestamp" Timestamp.codec (·.timestamp) fun v r => { r with timestamp := v }]

end RequestOutcome

structure WinOutcome where
  bidder : String
  key : SliceKey
  price : Money
  timestamp : Timestamp
deriving DecidableEq

def WinOutcome.shape : Shape WinOutcome where
  blank := ⟨"", SliceKey.shape.blank, .zero, default⟩
  fields := [
    .needed "bidder_code" .text (·.bidder) fun v r => { r with bidder := v },
    .needed "key" SliceKey.shape.codec (·.key) fun v r => { r with key := v },
    .needed "win_cpm" Money.codec (·.price) fun v r => { r with price := v },
    .needed "timestamp" Timestamp.codec (·.timestamp) fun v r => { r with timestamp := v }]

end DemandRouting
