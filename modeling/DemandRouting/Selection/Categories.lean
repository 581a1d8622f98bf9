import DemandRouting.Opportunity.Inventory
import DemandRouting.Table

namespace DemandRouting

-- The members of every category.
abbrev Categories := Table (List String)

namespace Categories

def premium : String := "premium"
def midTier : String := "mid_tier"
def videoSpecialist : String := "video_specialist"
def native : String := "native"

def builtIn : Categories := .ofList [
  (premium, ["rubicon", "appnexus", "pubmatic", "openx", "ix"]),
  (midTier, ["sovrn", "medianet", "gumgum", "yieldmo", "33across", "smartadserver"]),
  (videoSpecialist, ["spotx", "beachfront", "unruly", "telaria", "freewheel"]),
  (native, ["triplelift", "sharethrough", "teads"])]

-- The category that lists a bidder, the first by name if there are several.
def ofBidder? (c : Categories) (bidder : String) : Option String :=
  (c.entries.find? (·.2.contains bidder)).map (·.1)

-- Premium and mid-tier bidders for every format, specialists for theirs.
def wanted : AdFormat → List String
  | .video => [premium, midTier, videoSpecialist]
  | .native => [premium, midTier, native]
  | _ => [premium, midTier]

-- The wanted categories that are configured.
def required (format : AdFormat) (configured : List String) : List String :=
  (wanted format).filter configured.contains

end Categories
end DemandRouting
