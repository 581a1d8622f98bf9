import DemandRouting.Opportunity.Classify
import DemandRouting.Routing.Settings
import DemandRouting.Selection.Choice
import DemandRouting.Sources.Gather
import DemandRouting.Text.Digest

namespace DemandRouting

-- All that was decided for one request.
structure Decision where
  opportunity : Opportunity
  -- best first
  scores : List ScoredBidder
  selection : Selection

def Decision.toJson (d : Decision) : Json := .object [
  ("request", d.opportunity.toJson),
  ("scores", .list (d.scores.map ScoredBidder.shape.write)),
  ("selection", d.selection.toJson)]

structure Router where
  settings : RouterSettings
  sources : Sources
  -- without a source of anchors there are the standard ones
  anchors : Option AnchorSource

namespace Router

-- A router with settings that were checked.
def make (settings : RouterSettings) (sources : Sources) (anchors : Option AnchorSource) :
    Except SettingsFault Router := do
  settings.validate
  return ⟨settings, sources, anchors⟩

-- The seed of a request; without a base seed it comes from outside.
def seedOf (settings : RouterSettings) (requestId : String) (entropy : UInt64) : UInt64 :=
  match settings.baseSeed with
  | some base => base ^^^ Digest.ofText requestId
  | none => entropy

-- A decision, the time that making it takes, and the number of reads for it.
structure Routed where
  decision : Decision
  delay : Nat
  reads : Nat

def routeOpportunity (r : Router) (o : Opportunity) (entropy : UInt64) (candidates : List String)
    (cancel : Option Nat) : Routed :=
  let snapshots := Snapshot.gatherAll r.settings.blend r.sources candidates (some o) cancel
  let scores := ScoredBidder.ofSnapshots r.settings.scoring o snapshots
  let draws := Stream.ofSeed (seedOf r.settings o.requestId entropy)
  let selection :=
    (Selection.choose Stream.generator r.settings.selection r.anchors scores o draws).1
  let asked := Selection.anchorReading? r.settings.selection r.anchors scores o
  { decision := ⟨o, scores, selection⟩
    delay := Snapshot.gatherAllDelay r.settings.blend r.sources candidates (some o) cancel +
      (asked.map (·.delay)).getD 0
    reads := Snapshot.readCount candidates (some o) + asked.toList.length }

-- Candidates whose data is not there when `cancel` milliseconds have passed count as unknown.
def route (r : Router) (now : Timestamp) (fresh : FreshIds) (entropy : UInt64)
    (request : OpenRtb.BidRequest) (candidates : List String) (cancel : Option Nat) : Routed :=
  r.routeOpportunity (.classify now fresh request) entropy candidates cancel

end Router
end DemandRouting
