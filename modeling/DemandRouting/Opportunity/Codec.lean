import DemandRouting.Json.Shape
import DemandRouting.Money.Text
import DemandRouting.Opportunity.Basic
import DemandRouting.Time.Rfc3339

namespace DemandRouting

def AdFormat.codec : Codec AdFormat := .named AdFormat.all AdFormat.name

def Position.codec : Codec Position := .named Position.all Position.name

def DeviceClass.codec : Codec DeviceClass := .named DeviceClass.all DeviceClass.name

def Connection.codec : Codec Connection := .named Connection.all Connection.name

def AdSize.shape : Shape AdSize where
  blank := ⟨0, 0⟩
  fields := [
    .needed "width" .word32 (·.width) fun v r => { r with width := v },
    .needed "height" .word32 (·.height) fun v r => { r with height := v }]

namespace PageType

def name : PageType → String
  | .article => "article"
  | .homepage => "homepage"
  | .category => "section"
  | .search => "search"
  | .video => "video"
  | .other label => label

-- A label with a meaning of its own stands in an object.
def codec : Codec PageType where
  read
    | .text s => [article, homepage, category, search, video].find? (·.name == s)
    | .object [("other", .text label)] => some (.other label)
    | _ => none
  write
    | .other label => .object [("other", .text label)]
    | t => .text t.name

end PageType

def Consent.shape : Shape Consent where
  blank := {}
  fields := [
    .of "gdpr_applies" .bool (·.gdprApplies) fun v r => { r with gdprApplies := v },
    .of "ccpa_applies" .bool (·.ccpaApplies) fun v r => { r with ccpaApplies := v },
    .of "coppa_applies" .bool (·.coppaApplies) fun v r => { r with coppaApplies := v },
    .of "gpp_applies" .bool (·.gppApplies) fun v r => { r with gppApplies := v },
    .of "tcf_consent" (.option .text) (·.tcfConsent) fun v r => { r with tcfConsent := v },
    .of "us_privacy" (.option .text) (·.usPrivacy) fun v r => { r with usPrivacy := v },
    .of "us_privacy_opt_out" .bool (·.usPrivacyOptOut) fun v r => { r with usPrivacyOptOut := v },
    .of "gpp_string" (.option .text) (·.gppString) fun v r => { r with gppString := v },
    .of "gpp_section_ids" (.list .word32) (·.gppSectionIds)
      fun v r => { r with gppSectionIds := v }]

def GeneratedIds.shape : Shape GeneratedIds where
  blank := {}
  fields := [
    .of "publisher_id" .bool (·.publisher) fun v r => { r with publisher := v },
    .of "site_id" .bool (·.site) fun v r => { r with site := v },
    .of "ad_unit_id" .bool (·.adUnit) fun v r => { r with adUnit := v }]

namespace Opportunity

def shape (t : Timestamp) : Shape Opportunity where
  blank := .atTime t
  fields := [
    .of "request_id" .text (·.requestId) fun v r => { r with requestId := v },
    .of "ad_format" AdFormat.codec (·.format) fun v r => { r with format := v },
    .of "ad_sizes" (.list AdSize.shape.codec) (·.sizes) fun v r => { r with sizes := v },
    .of "position" Position.codec (·.position) fun v r => { r with position := v },
    .of "device_type" DeviceClass.codec (·.device) fun v r => { r with device := v },
    .of "os" .text (·.os) fun v r => { r with os := v },
    .of "browser" .text (·.browser) fun v r => { r with browser := v },
    .of "connection_type" Connection.codec (·.connection) fun v r => { r with connection := v },
    .of "country" .text (·.country) fun v r => { r with country := v },
    .of "region" .text (·.region) fun v r => { r with region := v },
    .of "dma" .text (·.dma) fun v r => { r with dma := v },
    .of "publisher_id" .text (·.publisherId) fun v r => { r with publisherId := v },
    .of "site_id" .text (·.siteId) fun v r => { r with siteId := v },
    .of "ad_unit_id" .text (·.adUnitId) fun v r => { r with adUnitId := v },
    .of "domain" .text (·.domain) fun v r => { r with domain := v },
    .of "page_url" .text (·.pageUrl) fun v r => { r with pageUrl := v },
    .of "page_type" (.option PageType.codec) (·.pageType) fun v r => { r with pageType := v },
    .of "page_categories" (.list .text) (·.pageCategories)
      fun v r => { r with pageCategories := v },
    .of "is_app" .bool (·.isApp) fun v r => { r with isApp := v },
    .of "user_ids" (.table .text) (·.userIds) fun v r => { r with userIds := v },
    .of "consent" Consent.shape.codec (·.consent) fun v r => { r with consent := v },
    .of "floor_price" (.option Money.codec) (·.floorPrice) fun v r => { r with floorPrice := v },
    .of "floor_currency" .text (·.floorCurrency) fun v r => { r with floorCurrency := v },
    .of "timestamp" Timestamp.codec (·.timestamp) fun v r => { r with timestamp := v },
    .of "hour_of_day" .natural (·.hourOfDay) fun v r => { r with hourOfDay := v },
    .of "day_of_week" .natural (·.dayOfWeek) fun v r => { r with dayOfWeek := v },
    .of "generated_ids" GeneratedIds.shape.codec (·.generated)
      fun v r => { r with generated := v }]

def toJson (o : Opportunity) : Json := (shape o.timestamp).write o

end Opportunity
end DemandRouting
