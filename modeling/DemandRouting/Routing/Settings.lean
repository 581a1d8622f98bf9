import DemandRouting.Json.Reader
import DemandRouting.Performance.Blend
import DemandRouting.Scoring.Settings
import DemandRouting.Selection.Settings

namespace DemandRouting

structure RouterSettings where
  selection : SelectionSettings := {}
  scoring : ScoringSettings := {}
  blend : BlendSettings := {}
  -- with a base seed, equal requests are decided equally
  baseSeed : Option UInt64 := none
deriving DecidableEq

inductive SettingsFault where
  | unreadable (reason : String)
  | malformed
  | scoring (fault : ScoringFault)
  | selection (fault : SelectionSettings.Fault)
  | blend (fault : BlendSettings.Fault)
deriving DecidableEq

def SettingsFault.message : SettingsFault → String
  | .unreadable reason => "Failed to read config file: " ++ reason
  | .malformed => "Failed to parse config"
  | .scoring fault => "Invalid scorer config: " ++ fault.message
  | .selection fault => "Invalid selector config: " ++ fault.message
  | .blend fault => "Invalid metrics config: " ++ fault.message

namespace RouterSettings

def validate (s : RouterSettings) : Except SettingsFault Unit := do
  s.scoring.validate.mapError .scoring
  s.selection.validate.mapError .selection
  s.blend.validate.mapError .blend

def shape : Shape RouterSettings where
  blank := {}
  fields := [
    .of "selector" SelectionSettings.shape.codec (·.selection) fun v r => { r with selection := v },
    .of "scorer" ScoringSettings.shape.codec (·.scoring) fun v r => { r with scoring := v },
    .of "metrics" BlendSettings.shape.codec (·.blend) fun v r => { r with blend := v },
    .of "base_seed" (.option .word64) (·.baseSeed) fun v r => { r with baseSeed := v }]

-- The settings that a text gives; they may still be out of range.
def ofText (text : String) : Except SettingsFault RouterSettings :=
  match (Json.read text).bind shape.read with
  | some s => .ok s
  | none => .error .malformed

-- The settings in a file, of which the text or the reason why there is none is given.
def ofFile (content : Except String String) : Except SettingsFault RouterSettings :=
  match content with
  | .ok text => ofText text
  | .error reason => .error (.unreadable reason)

end RouterSettings
end DemandRouting
