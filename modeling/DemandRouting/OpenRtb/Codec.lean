import DemandRouting.Json.Reader
import DemandRouting.Json.Shape
import DemandRouting.OpenRtb.Request

namespace DemandRouting.OpenRtb

open Codec

-- Every field of these records may be missing.
def Format.shape : Shape Format where
  blank := {}
  fields := [
    .of "w" word32 (·.w) fun v r => { r with w := v },
    .of "h" word32 (·.h) fun v r => { r with h := v }]

def Banner.shape : Shape Banner where
  blank := {}
  fields := [
    .of "format" (list Format.shape.codec) (·.format) fun v r => { r with format := v },
    .of "w" (option word32) (·.w) fun v r => { r with w := v },
    .of "h" (option word32) (·.h) fun v r => { r with h := v },
    .of "pos" (option signed64) (·.pos) fun v r => { r with pos := v }]

def Video.shape : Shape Video where
  blank := {}
  fields := [
    .of "mimes" (list text) (·.mimes) fun v r => { r with mimes := v },
    .of "w" (option word32) (·.w) fun v r => { r with w := v },
    .of "h" (option word32) (·.h) fun v r => { r with h := v },
    .of "pos" (option signed64) (·.pos) fun v r => { r with pos := v }]

def Native.shape : Shape Native where
  blank := {}
  fields := [
    .of "request" (option text) (·.request) fun v r => { r with request := v },
    .of "ver" (option text) (·.ver) fun v r => { r with ver := v }]

def Audio.shape : Shape Audio where
  blank := {}
  fields := [
    .of "mimes" (list text) (·.mimes) fun v r => { r with mimes := v }]

def Imp.shape : Shape Imp where
  blank := {}
  fields := [
    .of "id" text (·.id) fun v r => { r with id := v },
    .of "tagid" (option text) (·.tagid) fun v r => { r with tagid := v },
    .of "banner" (option Banner.shape.codec) (·.banner) fun v r => { r with banner := v },
    .of "video" (option Video.shape.codec) (·.video) fun v r => { r with video := v },
    .of "native" (option Native.shape.codec) (·.native) fun v r => { r with native := v },
    .of "audio" (option Audio.shape.codec) (·.audio) fun v r => { r with audio := v },
    .of "bidfloor" (option double) (·.bidfloor) fun v r => { r with bidfloor := v },
    .of "bidfloorcur" (option text) (·.bidfloorcur) fun v r => { r with bidfloorcur := v }]

def Publisher.shape : Shape Publisher where
  blank := {}
  fields := [
    .of "id" (option text) (·.id) fun v r => { r with id := v }]

def Content.shape : Shape Content where
  blank := {}
  fields := [
    .of "cat" (list text) (·.cat) fun v r => { r with cat := v }]

def SiteExtData.shape : Shape SiteExtData where
  blank := {}
  fields := [
    .of "pagetype" (option text) (·.pagetype) fun v r => { r with pagetype := v }]

def SiteExt.shape : Shape SiteExt where
  blank := {}
  fields := [
    .of "data" (option SiteExtData.shape.codec) (·.data) fun v r => { r with data := v }]

def Site.shape : Shape Site where
  blank := {}
  fields := [
    .of "id" (option text) (·.id) fun v r => { r with id := v },
    .of "domain" (option text) (·.domain) fun v r => { r with domain := v },
    .of "page" (option text) (·.page) fun v r => { r with page := v },
    .of "cat" (list text) (·.cat) fun v r => { r with cat := v },
    .of "pagecat" (list text) (·.pagecat) fun v r => { r with pagecat := v },
    .of "publisher" (option Publisher.shape.codec) (·.publisher)
      fun v r => { r with publisher := v },
    .of "content" (option Content.shape.codec) (·.content) fun v r => { r with content := v },
    .of "ext" (option SiteExt.shape.codec) (·.ext) fun v r => { r with ext := v }]

def App.shape : Shape App where
  blank := {}
  fields := [
    .of "id" (option text) (·.id) fun v r => { r with id := v },
    .of "bundle" (option text) (·.bundle) fun v r => { r with bundle := v },
    .of "domain" (option text) (·.domain) fun v r => { r with domain := v },
    .of "cat" (list text) (·.cat) fun v r => { r with cat := v },
    .of "publisher" (option Publisher.shape.codec) (·.publisher)
      fun v r => { r with publisher := v },
    .of "content" (option Content.shape.codec) (·.content) fun v r => { r with content := v }]

def Geo.shape : Shape Geo where
  blank := {}
  fields := [
    .of "country" (option text) (·.country) fun v r => { r with country := v },
    .of "region" (option text) (·.region) fun v r => { r with region := v },
    .of "metro" (option text) (·.metro) fun v r => { r with metro := v }]

def Device.shape : Shape Device where
  blank := {}
  fields := [
    .of "ua" (option text) (·.ua) fun v r => { r with ua := v },
    .of "devicetype" (option signed64) (·.devicetype) fun v r => { r with devicetype := v },
    .of "os" (option text) (·.os) fun v r => { r with os := v },
    .of "connectiontype" (option signed64) (·.connectiontype)
      fun v r => { r with connectiontype := v },
    .of "geo" (option Geo.shape.codec) (·.geo) fun v r => { r with geo := v }]

def Uid.shape : Shape Uid where
  blank := {}
  fields := [
    .of "id" text (·.id) fun v r => { r with id := v }]

def Eid.shape : Shape Eid where
  blank := {}
  fields := [
    .of "source" text (·.source) fun v r => { r with source := v },
    .of "uids" (list Uid.shape.codec) (·.uids) fun v r => { r with uids := v }]

def UserExt.shape : Shape UserExt where
  blank := {}
  fields := [
    .of "consent" (option text) (·.consent) fun v r => { r with consent := v },
    .of "eids" (list Eid.shape.codec) (·.eids) fun v r => { r with eids := v }]

def User.shape : Shape User where
  blank := {}
  fields := [
    .of "id" (option text) (·.id) fun v r => { r with id := v },
    .of "buyeruid" (option text) (·.buyeruid) fun v r => { r with buyeruid := v },
    .of "consent" (option text) (·.consent) fun v r => { r with consent := v },
    .of "geo" (option Geo.shape.codec) (·.geo) fun v r => { r with geo := v },
    .of "eids" (list Eid.shape.codec) (·.eids) fun v r => { r with eids := v },
    .of "ext" (option UserExt.shape.codec) (·.ext) fun v r => { r with ext := v }]

def RegsExt.shape : Shape RegsExt where
  blank := {}
  fields := [
    .of "gdpr" (option signed64) (·.gdpr) fun v r => { r with gdpr := v },
    .of "us_privacy" (option text) (·.usPrivacy) fun v r => { r with usPrivacy := v }]

def Regs.shape : Shape Regs where
  blank := {}
  fields := [
    .of "coppa" (option signed64) (·.coppa) fun v r => { r with coppa := v },
    .of "gdpr" (option signed64) (·.gdpr) fun v r => { r with gdpr := v },
    .of "us_privacy" (option text) (·.usPrivacy) fun v r => { r with usPrivacy := v },
    .of "gpp" (option text) (·.gpp) fun v r => { r with gpp := v },
    .of "gpp_sid" (list word32) (·.gppSid) fun v r => { r with gppSid := v },
    .of "ext" (option RegsExt.shape.codec) (·.ext) fun v r => { r with ext := v }]

def BidRequest.shape : Shape BidRequest where
  blank := {}
  fields := [
    .of "id" text (·.id) fun v r => { r with id := v },
    .of "imp" (list Imp.shape.codec) (·.imp) fun v r => { r with imp := v },
    .of "site" (option Site.shape.codec) (·.site) fun v r => { r with site := v },
    .of "app" (option App.shape.codec) (·.app) fun v r => { r with app := v },
    .of "device" (option Device.shape.codec) (·.device) fun v r => { r with device := v },
    .of "user" (option User.shape.codec) (·.user) fun v r => { r with user := v },
    .of "regs" (option Regs.shape.codec) (·.regs) fun v r => { r with regs := v }]

-- The request that a text holds; a text that holds none counts as the empty request.
def BidRequest.ofText (s : String) : BidRequest := ((Json.read s).bind BidRequest.shape.read).getD {}

end DemandRouting.OpenRtb
