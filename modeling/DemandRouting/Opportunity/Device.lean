import DemandRouting.OpenRtb.Request
import DemandRouting.Text.Blank

namespace DemandRouting

open Text

inductive DeviceClass where
  | desktop
  | mobile
  | tablet
  | ctv
deriving DecidableEq, Repr, Inhabited

namespace DeviceClass

def all : List DeviceClass := [.desktop, .mobile, .tablet, .ctv]

def name : DeviceClass → String
  | .desktop => "desktop"
  | .mobile => "mobile"
  | .tablet => "tablet"
  | .ctv => "ctv"

-- The place in declaration order.
def index : DeviceClass → Nat
  | .desktop => 0
  | .mobile => 1
  | .tablet => 2
  | .ctv => 3

def ofName? (s : String) : Option DeviceClass := all.find? (·.name == s)

-- The OpenRTB code of a device; some codes say nothing.
def ofCode? (code : Int) : Option DeviceClass :=
  match code with
  | 1 | 4 => some .mobile
  | 2 => some .desktop
  | 3 | 6 | 7 => some .ctv
  | 5 => some .tablet
  | _ => none

-- Tablets come first: an Android device that does not call itself mobile is one.
def ofUserAgent? (userAgent : String) : Option DeviceClass :=
  let ua := lowerAscii userAgent
  if mentionsAny ua ["ipad", "tablet", "kindle", "silk/"] ||
      (mentions ua "android" && !mentions ua "mobile") then some .tablet
  else if mentionsAny ua ["mobi", "iphone", "ipod", "android", "windows phone", "blackberry"] then
    some .mobile
  else none

def ofSystem? (os : String) : Option DeviceClass :=
  let os := lowerAscii (trim os)
  if os ∈ ["ios", "android"] then some .mobile
  else if os ∈ ["tvos", "tizen", "webos", "roku"] then some .ctv
  else none

-- An explicit code outranks the user agent, which outranks the name of the operating system.
def ofDevice (device : Option OpenRtb.Device) : DeviceClass :=
  (device.bind fun d =>
    (d.devicetype.bind fun code => ofCode? code.toInt)
      <|> d.ua.bind ofUserAgent?
      <|> d.os.bind ofSystem?).getD .desktop

end DeviceClass

inductive Connection where
  | unknown
  | ethernet
  | wifi
  | cellularUnknown
  | cellular2g
  | cellular3g
  | cellular4g
  | cellular5g
deriving DecidableEq, Repr, Inhabited

namespace Connection

def all : List Connection :=
  [.unknown, .ethernet, .wifi, .cellularUnknown, .cellular2g, .cellular3g, .cellular4g, .cellular5g]

def name : Connection → String
  | .unknown => "unknown"
  | .ethernet => "ethernet"
  | .wifi => "wifi"
  | .cellularUnknown => "cellular_unknown"
  | .cellular2g => "cellular2g"
  | .cellular3g => "cellular3g"
  | .cellular4g => "cellular4g"
  | .cellular5g => "cellular5g"

def ofName? (s : String) : Option Connection := all.find? (·.name == s)

-- The OpenRTB code of a connection; codes that are not listed say nothing.
def ofCode (code : Int) : Connection :=
  match code with
  | 1 => .ethernet
  | 2 => .wifi
  | 3 => .cellularUnknown
  | 4 => .cellular2g
  | 5 => .cellular3g
  | 6 => .cellular4g
  | 7 => .cellular5g
  | _ => .unknown

end Connection

namespace UserAgent

-- The name beside the first row with a fragment that the user agent mentions, empty if there is
-- none.
def firstMention (rows : List (List String × String)) (userAgent : String) : String :=
  let ua := lowerAscii userAgent
  ((rows.find? fun row => mentionsAny ua row.1).map (·.2)).getD ""

def systems : List (List String × String) := [
  (["iphone", "ipad", "ipod"], "iOS"),
  (["android"], "Android"),
  (["windows"], "Windows"),
  (["cros"], "ChromeOS"),
  (["mac os x", "macintosh"], "macOS"),
  (["tizen"], "Tizen"),
  (["web0s", "webos"], "webOS"),
  (["roku"], "Roku"),
  (["linux"], "Linux")]

-- Most browsers also claim to be Safari and Chrome, so these come last.
def browsers : List (List String × String) := [
  (["edg/", "edga/", "edgios/"], "Edge"),
  (["opr/", "opera"], "Opera"),
  (["samsungbrowser"], "Samsung Internet"),
  (["firefox", "fxios"], "Firefox"),
  (["crios", "chrome"], "Chrome"),
  (["safari"], "Safari")]

def system : String → String := firstMention systems

def browser : String → String := firstMention browsers

end UserAgent
end DemandRouting
