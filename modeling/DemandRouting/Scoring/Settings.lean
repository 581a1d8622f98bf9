import DemandRouting.Scoring.Weights
import DemandRouting.Table

namespace DemandRouting

structure IdPreferences where
  bidders : Table (List String)
  standard : List String
deriving DecidableEq

namespace IdPreferences

def builtIn : IdPreferences where
  bidders := .ofList [
    ("rubicon", ["liveramp", "uid2", "id5"]),
    ("appnexus", ["uid2", "id5", "liveramp"]),
    ("pubmatic", ["uid2", "id5", "sharedid"]),
    ("openx", ["uid2", "id5", "liveramp"]),
    ("ix", ["liveramp", "uid2", "id5"]),
    ("criteo", ["criteo", "uid2", "id5"]),
    ("triplelift", ["uid2", "liveramp"]),
    ("sovrn", ["sharedid", "id5"]),
    ("sharethrough", ["uid2", "sharedid"]),
    ("trustx", ["sharedid"]),
    ("ttd", ["ttd", "uid2"]),
    ("yahoossp", ["connectid", "uid2"])]
  standard := ["uid2", "id5", "sharedid"]

-- A bidder without preferences of its own has the standard ones.
def ofBidder (p : IdPreferences) (bidder : String) : List String :=
  (p.bidders.get? bidder).getD p.standard

def shape : Shape IdPreferences where
  blank := builtIn
  fields := [
    .of "bidders" (.table (.list .text)) (·.bidders) fun v r => { r with bidders := v },
    .of "default" (.list .text) (·.standard) fun v r => { r with standard := v }]

end IdPreferences

structure ScoringSettings where
  weights : PerComponent := Weights.standard
  -- samples that a slice needs to be read instead of a broader one
  minSamples : UInt64 := 100
  -- recent samples that a trend needs
  recencyMinSamples : UInt64 := 30
  idPreferences : IdPreferences := .builtIn
deriving DecidableEq

namespace ScoringSettings

def validate (s : ScoringSettings) : Except ScoringFault Unit := Weights.validate s.weights

def shape : Shape ScoringSettings where
  blank := {}
  fields := [
    .of "weights" (PerComponent.shape Weights.standard).codec (·.weights)
      fun v r => { r with weights := v },
    .of "min_sample_size" .word64 (·.minSamples) fun v r => { r with minSamples := v },
    .of "recency_min_samples" .word64 (·.recencyMinSamples)
      fun v r => { r with recencyMinSamples := v },
    .of "id_preferences" IdPreferences.shape.codec (·.idPreferences)
      fun v r => { r with idPreferences := v }]

end ScoringSettings
end DemandRouting
