import DemandRouting.Opportunity.Codec

namespace DemandRouting

-- Size and publisher are the first to be dropped where data is sparse.
structure SliceKey where
  country : String
  device : DeviceClass
  format : AdFormat
  size : Option String
  publisher : Option String
deriving DecidableEq

namespace SliceKey

-- An empty size or publisher is none at all.
def make (country : String) (device : DeviceClass) (format : AdFormat)
    (size publisher : Option String) : SliceKey :=
  ⟨country, device, format, size.filter (!·.isEmpty), publisher.filter (!·.isEmpty)⟩

-- The most specific slice of an opportunity. A publisher whose id was made up has no history.
def ofOpportunity (o : Opportunity) : SliceKey :=
  make o.country o.device o.format (o.primarySize?.map AdSize.toText)
    (if o.generated.publisher then none else some o.publisherId)

def withoutSize (k : SliceKey) : SliceKey := { k with size := none }

def withoutPublisher (k : SliceKey) : SliceKey := { k with publisher := none }

-- Add a key unless it is there already.
def addLevel (levels : List SliceKey) (k : SliceKey) : List SliceKey :=
  if levels.contains k then levels else levels ++ [k]

-- The key, then without the size, without the publisher and without both, each once.
def fallback (k : SliceKey) : List SliceKey :=
  [k, k.withoutSize, k.withoutPublisher, k.withoutSize.withoutPublisher].foldl addLevel []

-- `|` between the parts and `*` for a part that is open.
def display (k : SliceKey) : String :=
  k.country ++ "|" ++ k.device.name ++ "|" ++ k.format.name ++ "|" ++ k.size.getD "*" ++ "|" ++
    k.publisher.getD "*"

def compareOption (a b : Option String) : Ordering :=
  match a, b with
  | none, none => .eq
  | none, some _ => .lt
  | some _, none => .gt
  | some a, some b => compare a b

-- Part by part; an open part comes before every other.
def order (a b : SliceKey) : Ordering :=
  (compare a.country b.country)
    |>.then (compare a.device.index b.device.index)
    |>.then (compare a.format.index b.format.index)
    |>.then (compareOption a.size b.size)
    |>.then (compareOption a.publisher b.publisher)

def shape : Shape SliceKey where
  blank := ⟨"", .desktop, .banner, none, none⟩
  fields := [
    .needed "country" .text (·.country) fun v r => { r with country := v },
    .needed "device_type" DeviceClass.codec (·.device) fun v r => { r with device := v },
    .needed "ad_format" AdFormat.codec (·.format) fun v r => { r with format := v },
    .optional "ad_size" .text (·.size) fun v r => { r with size := v },
    .optional "publisher_id" .text (·.publisher) fun v r => { r with publisher := v }]

end SliceKey

-- One bidder's slice, or without a key all that is known of the bidder.
structure SliceId where
  bidder : String
  key : Option SliceKey
deriving DecidableEq

end DemandRouting
