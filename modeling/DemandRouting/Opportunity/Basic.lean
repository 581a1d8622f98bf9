import DemandRouting.Money.Basic
import DemandRouting.Opportunity.Consent
import DemandRouting.Opportunity.Device
import DemandRouting.Opportunity.Inventory
import DemandRouting.Opportunity.Page
import DemandRouting.Table
import DemandRouting.Time.Timestamp

namespace DemandRouting

-- Which ids were made up because the request had none.
structure GeneratedIds where
  publisher : Bool := false
  site : Bool := false
  adUnit : Bool := false
deriving DecidableEq, Inhabited

-- The features of one impression that is up for auction.
structure Opportunity where
  requestId : String
  format : AdFormat
  -- in written order; the first is the primary size
  sizes : List AdSize
  position : Position
  device : DeviceClass
  os : String
  browser : String
  connection : Connection
  country : String
  region : String
  dma : String
  publisherId : String
  siteId : String
  adUnitId : String
  domain : String
  pageUrl : String
  pageType : Option PageType
  pageCategories : List String
  isApp : Bool
  -- type of id and value
  userIds : Table String
  consent : Consent
  floorPrice : Option Money
  floorCurrency : String
  timestamp : Timestamp
  hourOfDay : Nat
  -- days since Monday
  dayOfWeek : Nat
  generated : GeneratedIds
deriving DecidableEq

namespace Opportunity

def unknownCountry : String := "UNKNOWN"

-- What is assumed of an impression of which only the time is known.
def atTime (t : Timestamp) : Opportunity where
  requestId := ""
  format := .banner
  sizes := []
  position := .unknown
  device := .desktop
  os := ""
  browser := ""
  connection := .unknown
  country := unknownCountry
  region := ""
  dma := ""
  publisherId := ""
  siteId := ""
  adUnitId := ""
  domain := ""
  pageUrl := ""
  pageType := none
  pageCategories := []
  isApp := false
  userIds := .empty
  consent := {}
  floorPrice := none
  floorCurrency := "USD"
  timestamp := t
  hourOfDay := t.hour
  dayOfWeek := t.weekday
  generated := {}

def primarySize? (o : Opportunity) : Option AdSize := o.sizes.head?

-- The floor when there is one above zero.
def effectiveFloor? (o : Opportunity) : Option Money := o.floorPrice.filter Money.isPositive

def hasUserId (o : Opportunity) (type : String) : Bool := o.userIds.contains type

end Opportunity

end DemandRouting
