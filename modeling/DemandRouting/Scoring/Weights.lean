import DemandRouting.Json.Shape
import DemandRouting.Scoring.Component

namespace DemandRouting

inductive ScoringFault where
  | weightSum (sum : Float)
  | negativeWeight (component : Component) (weight : Float)
  | unknownComponent (name : String)
deriving DecidableEq

def ScoringFault.message : ScoringFault → String
  | .weightSum sum => "Scoring weights must sum to 1.0 (+/- 0.001), got " ++ Number.message sum
  | .negativeWeight component weight =>
    "Scoring weight for " ++ component.name ++ " must be non-negative, got " ++
      Number.message weight
  | .unknownComponent name => "Unknown score component: " ++ name

namespace Weights

def standard : PerComponent where
  winRate := 0.25
  bidRate := 0.15
  cpm := 0.20
  floorClearance := 0.10
  latency := 0.10
  recency := 0.10
  idMatch := 0.10

-- Added from the left; negative zero is neutral for every double.
def total (xs : List Float) : Float := xs.foldl (· + ·) (-0.0)

def sum (w : PerComponent) : Float := total (Component.all.map w.get)

def tolerance : Float := 0.001

def isBad (x : Float) : Bool := x < 0.0 || x.isNaN

def validate (w : PerComponent) : Except ScoringFault Unit :=
  match Component.all.find? fun c => isBad (w.get c) with
  | some c => .error (.negativeWeight c (w.get c))
  | none =>
    if tolerance < (sum w - 1.0).abs then .error (.weightSum (sum w)) else .ok ()

-- The standard weights with those of the named components replaced, the last of several counting.
def ofNamed (entries : List (String × Float)) : Except ScoringFault PerComponent :=
  entries.foldlM (fun w e =>
    match Component.ofName? e.1 with
    | some c => .ok (w.set e.2 c)
    | none => .error (.unknownComponent e.1)) standard

-- The weighted total of the components.
def combine (w scores : PerComponent) : Float :=
  Number.clamp 0.0 100.0 (total (Component.all.map fun c => w.get c * scores.get c))

end Weights

def PerComponent.shape (blank : PerComponent) : Shape PerComponent where
  blank := blank
  fields := Component.all.map fun c => .of c.name .double (·.get c) fun x p => p.set x c

end DemandRouting
