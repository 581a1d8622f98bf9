import DemandRouting.Money.Double
import DemandRouting.Opportunity.Basic
import DemandRouting.Opportunity.Identity
import DemandRouting.Opportunity.Ids

namespace DemandRouting.Opportunity

open OpenRtb Text

def Native.isPopulated (n : OpenRtb.Native) : Bool := (n.request.bind nonBlank?).isSome

-- The first populated format of video, native and audio; else the impression is a banner.
def formatOf (imp : Imp) : AdFormat :=
  if imp.video.any Video.isPopulated then .video
  else if imp.native.any Native.isPopulated then .native
  else if imp.audio.any Audio.isPopulated then .audio
  else .banner

-- A pair of dimensions, both given and positive.
def givenSize? (w h : Option UInt32) : Option AdSize :=
  match w, h with
  | some w, some h => AdSize.positive? w h
  | _, _ => none

def bannerSizes (banner : Banner) : List AdSize :=
  let listed := banner.format.filterMap fun f => AdSize.positive? f.w f.h
  if listed.isEmpty then (givenSize? banner.w banner.h).toList else listed

-- The listed formats of the banner, else its own size, else the size of the video player.
def sizesOf (imp : Imp) : List AdSize :=
  let fromBanner := (imp.banner.map bannerSizes).getD []
  if fromBanner.isEmpty then (imp.video.bind fun v => givenSize? v.w v.h).toList else fromBanner

def positionOf (imp : Imp) : Position :=
  let code := match formatOf imp with
    | .video => imp.video.bind (·.pos)
    | _ => imp.banner.bind (·.pos)
  (code.map fun c => Position.ofCode c.toInt).getD .unknown

-- A positive floor at up to six places.
def floorOf (imp : Imp) : Option Money :=
  (imp.bidfloor.filter fun x => x.isFinite && 0.0 < x).bind fun x =>
    (Money.ofPositiveFloat? x).map (·.roundTo 6)

def currencyOf (imp : Imp) : String :=
  match imp.bidfloorcur with
  | some c => if c.isEmpty then "USD" else c
  | none => "USD"

def withInventory (o : Opportunity) (imp : Imp) : Opportunity :=
  { o with
    format := formatOf imp
    sizes := sizesOf imp
    position := positionOf imp
    floorPrice := floorOf imp
    floorCurrency := currencyOf imp }

def withDevice (o : Opportunity) (device : Option OpenRtb.Device) : Opportunity :=
  let ua := (device.bind (·.ua)).getD ""
  let named := (device.bind (·.os)).filter fun os => !os.isEmpty
  { o with
    device := .ofDevice device
    os := named.getD (UserAgent.system ua)
    browser := UserAgent.browser ua
    connection := ((device.bind (·.connectiontype)).map fun c => Connection.ofCode c.toInt).getD .unknown }

-- Where the device says it is outranks what is known of the user.
def geoOf (request : BidRequest) : Option Geo :=
  request.device.bind (·.geo) <|> request.user.bind (·.geo)

def withPlace (o : Opportunity) (geo : Option Geo) : Opportunity :=
  match geo with
  | none => o
  | some geo =>
    { o with
      country := (geo.country.bind nonBlank?).getD unknownCountry
      region := geo.region.getD ""
      dma := geo.metro.getD "" }

-- The id of the site's publisher, or of the app's when the site names no publisher.
def publisherIdOf (request : BidRequest) : Option String :=
  let publisher := request.site.bind (·.publisher) <|> request.app.bind (·.publisher)
  publisher.bind (·.id)

def siteIdOf (request : BidRequest) : Option String :=
  request.site.bind (·.id) <|> request.app.bind (·.id)

-- The tag id unless it is blank, else the id of the impression.
def adUnitIdOf (imp : Option Imp) : Option String :=
  imp.map fun i => (i.tagid.bind nonBlank?).getD i.id

def domainOf (request : BidRequest) : String :=
  (request.site.bind (·.domain) <|> request.app.bind fun a => a.domain <|> a.bundle).getD ""

def contentCategories (content : Option Content) : List String := (content.map (·.cat)).getD []

def categorySources (request : BidRequest) : List String :=
  match request.site, request.app with
  | some s, _ => s.cat ++ s.pagecat ++ contentCategories s.content
  | none, some a => a.cat ++ contentCategories a.content
  | none, none => []

-- Keep each category at its first place.
def addCategory (kept : List String) (category : String) : List String :=
  if category.isEmpty || kept.contains category then kept else kept ++ [category]

def categoriesOf (request : BidRequest) : List String :=
  (categorySources request).foldl addCategory []

def withPublisher (o : Opportunity) (request : BidRequest) (imp : Option Imp) (fresh : FreshIds) :
    Opportunity :=
  let publisher := TrackingId.orFresh (publisherIdOf request) publisherLead fresh.publisher
  let site := TrackingId.orFresh (siteIdOf request) siteLead fresh.site
  let adUnit := TrackingId.orFresh (adUnitIdOf imp) adUnitLead fresh.adUnit
  { o with
    publisherId := publisher.id
    siteId := site.id
    adUnitId := adUnit.id
    generated := ⟨publisher.generated, site.generated, adUnit.generated⟩
    isApp := request.site.isNone && request.app.isSome
    domain := domainOf request
    pageUrl := (request.site.bind (·.page)).getD ""
    pageType := request.site.bind PageType.ofSite?
    pageCategories := categoriesOf request }

def classifyImpression (now : Timestamp) (fresh : FreshIds) (request : BidRequest)
    (imp : Option Imp) : Opportunity :=
  let start := { atTime now with requestId := (nonBlank? request.id).getD (Uuid.v4 fresh.request) }
  let offered := (imp.map start.withInventory).getD start
  let placed := (offered.withDevice request.device).withPlace (geoOf request)
  { placed.withPublisher request imp fresh with
    userIds := Identity.extract request.user
    consent := .ofSignals (.ofRequest request) }

-- The first impression.
def classify (now : Timestamp) (fresh : FreshIds) (request : BidRequest) : Opportunity :=
  classifyImpression now fresh request request.imp.head?

-- Every impression, the `i`-th with the `i`-th set of fresh ids. A request without impressions
-- still offers one opportunity.
def classifyAll (now : Timestamp) (fresh : Nat → FreshIds) (request : BidRequest) :
    List Opportunity :=
  match request.imp with
  | [] => [classifyImpression now (fresh 0) request none]
  | imps => imps.mapIdx fun i imp => classifyImpression now (fresh i) request (some imp)

end DemandRouting.Opportunity
