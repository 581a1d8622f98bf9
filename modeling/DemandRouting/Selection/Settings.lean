import DemandRouting.Json.Shape
import DemandRouting.Selection.Categories

namespace DemandRouting

structure SelectionSettings where
  -- invite everyone
  bypass : Bool := false
  -- invite everyone and tell who would have been left out
  shadow : Bool := false
  maxBidders : UInt64 := 10
  minScore : Float := 20.0
  -- the chance of a high scorer of low confidence
  explorationRate : Float := 0.1
  explorationSlots : UInt64 := 2
  -- below it a high scorer needs luck
  lowConfidence : Float := 0.3
  -- below it a bidder may have an exploration slot
  slotConfidence : Float := 0.5
  anchorCount : UInt64 := 3
  diversity : Bool := true
  diversityCategories : List String :=
    [Categories.premium, Categories.midTier, Categories.videoSpecialist, Categories.native]
  categories : Categories := .builtIn
deriving DecidableEq

namespace SelectionSettings

inductive Fault where
  | bothModes
  | noRoom
  | minScoreOutOfRange (value : Float)
  | fractionOutOfRange (name : String) (value : Float)
deriving DecidableEq

def Fault.reason : Fault → String
  | .bothModes => "bypass_enabled and shadow_mode are mutually exclusive"
  | .noRoom => "max_bidders must be at least 1"
  | .minScoreOutOfRange value =>
    "min_score_threshold must be within [0, 100], got " ++ Number.message value
  | .fractionOutOfRange name value =>
    name ++ " must be within [0, 1], got " ++ Number.message value

def Fault.message (f : Fault) : String := "Invalid selector configuration: " ++ f.reason

-- NaN is in no range.
def inRange (low high x : Float) : Bool := low ≤ x && x ≤ high

-- Settings that have to lie between 0 and 1.
def fractions (s : SelectionSettings) : List (String × Float) := [
  ("exploration_rate", s.explorationRate),
  ("low_confidence_threshold", s.lowConfidence),
  ("exploration_confidence_threshold", s.slotConfidence)]

def validate (s : SelectionSettings) : Except Fault Unit :=
  if s.bypass && s.shadow then .error .bothModes
  else if s.maxBidders = 0 then .error .noRoom
  else if !inRange 0.0 100.0 s.minScore then .error (.minScoreOutOfRange s.minScore)
  else match s.fractions.find? fun f => !inRange 0.0 1.0 f.2 with
    | some (name, value) => .error (.fractionOutOfRange name value)
    | none => .ok ()

def shape : Shape SelectionSettings where
  blank := {}
  fields := [
    .of "bypass_enabled" .bool (·.bypass) fun v r => { r with bypass := v },
    .of "shadow_mode" .bool (·.shadow) fun v r => { r with shadow := v },
    .of "max_bidders" .word64 (·.maxBidders) fun v r => { r with maxBidders := v },
    .of "min_score_threshold" .double (·.minScore) fun v r => { r with minScore := v },
    .of "exploration_rate" .double (·.explorationRate) fun v r => { r with explorationRate := v },
    .of "exploration_slots" .word64 (·.explorationSlots)
      fun v r => { r with explorationSlots := v },
    .of "low_confidence_threshold" .double (·.lowConfidence)
      fun v r => { r with lowConfidence := v },
    .of "exploration_confidence_threshold" .double (·.slotConfidence)
      fun v r => { r with slotConfidence := v },
    .of "anchor_bidder_count" .word64 (·.anchorCount) fun v r => { r with anchorCount := v },
    .of "diversity_enabled" .bool (·.diversity) fun v r => { r with diversity := v },
    .of "diversity_categories" (.list .text) (·.diversityCategories)
      fun v r => { r with diversityCategories := v },
    .of "categories" (.table (.list .text)) (·.categories) fun v r => { r with categories := v }]

end SelectionSettings
end DemandRouting
