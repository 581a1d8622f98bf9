import DemandRouting.Json.Codec

namespace DemandRouting.OpenRtb

structure Format where
  w : UInt32 := 0
  h : UInt32 := 0
deriving DecidableEq

structure Banner where
  format : List Format := []
  w : Option UInt32 := none
  h : Option UInt32 := none
  pos : Option Int64 := none
deriving DecidableEq

structure Video where
  mimes : List String := []
  w : Option UInt32 := none
  h : Option UInt32 := none
  pos : Option Int64 := none
deriving DecidableEq

structure Native where
  request : Option String := none
  ver : Option String := none
deriving DecidableEq

structure Audio where
  mimes : List String := []
deriving DecidableEq

structure Imp where
  id : String := ""
  tagid : Option String := none
  banner : Option Banner := none
  video : Option Video := none
  native : Option Native := none
  audio : Option Audio := none
  bidfloor : Option Float := none
  bidfloorcur : Option String := none
deriving DecidableEq

structure Publisher where
  id : Option String := none
deriving DecidableEq

structure Content where
  cat : List String := []
deriving DecidableEq

structure SiteExtData where
  pagetype : Option String := none
deriving DecidableEq

structure SiteExt where
  data : Option SiteExtData := none
deriving DecidableEq

structure Site where
  id : Option String := none
  domain : Option String := none
  page : Option String := none
  cat : List String := []
  pagecat : List String := []
  publisher : Option Publisher := none
  content : Option Content := none
  ext : Option SiteExt := none
deriving DecidableEq

structure App where
  id : Option String := none
  bundle : Option String := none
  domain : Option String := none
  cat : List String := []
  publisher : Option Publisher := none
  content : Option Content := none
deriving DecidableEq

structure Geo where
  country : Option String := none
  region : Option String := none
  metro : Option String := none
deriving DecidableEq

structure Device where
  ua : Option String := none
  devicetype : Option Int64 := none
  os : Option String := none
  connectiontype : Option Int64 := none
  geo : Option Geo := none
deriving DecidableEq

structure Uid where
  id : String := ""
deriving DecidableEq

structure Eid where
  source : String := ""
  uids : List Uid := []
deriving DecidableEq

-- Where older requests have what is now in the record itself.
structure UserExt where
  consent : Option String := none
  eids : List Eid := []
deriving DecidableEq

structure User where
  id : Option String := none
  buyeruid : Option String := none
  consent : Option String := none
  geo : Option Geo := none
  eids : List Eid := []
  ext : Option UserExt := none
deriving DecidableEq

structure RegsExt where
  gdpr : Option Int64 := none
  usPrivacy : Option String := none
deriving DecidableEq

structure Regs where
  coppa : Option Int64 := none
  gdpr : Option Int64 := none
  usPrivacy : Option String := none
  gpp : Option String := none
  gppSid : List UInt32 := []
  ext : Option RegsExt := none
deriving DecidableEq

structure BidRequest where
  id : String := ""
  imp : List Imp := []
  site : Option Site := none
  app : Option App := none
  device : Option Device := none
  user : Option User := none
  regs : Option Regs := none
deriving DecidableEq

-- An empty placeholder object does not count as a creative slot.
def Video.isPopulated (v : Video) : Bool := !v.mimes.isEmpty || v.w.isSome || v.h.isSome

def Audio.isPopulated (a : Audio) : Bool := !a.mimes.isEmpty

end DemandRouting.OpenRtb
