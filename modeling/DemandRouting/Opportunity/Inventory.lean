namespace DemandRouting

inductive AdFormat where
  | banner
  | video
  | native
  | audio
deriving DecidableEq, Repr, Inhabited

namespace AdFormat

def all : List AdFormat := [.banner, .video, .native, .audio]

def name : AdFormat → String
  | .banner => "banner"
  | .video => "video"
  | .native => "native"
  | .audio => "audio"

-- The place in declaration order.
def index : AdFormat → Nat
  | .banner => 0
  | .video => 1
  | .native => 2
  | .audio => 3

def ofName? (s : String) : Option AdFormat := all.find? (·.name == s)

end AdFormat

structure AdSize where
  width : UInt32
  height : UInt32
deriving DecidableEq, Repr

namespace AdSize

def toText (s : AdSize) : String := toString s.width.toNat ++ "x" ++ toString s.height.toNat

-- A size that shows something.
def positive? (width height : UInt32) : Option AdSize :=
  if 0 < width ∧ 0 < height then some ⟨width, height⟩ else none

end AdSize

inductive Position where
  | unknown
  | aboveFold
  | belowFold
  | header
  | footer
  | sidebar
  | fullscreen
deriving DecidableEq, Repr, Inhabited

namespace Position

def all : List Position :=
  [.unknown, .aboveFold, .belowFold, .header, .footer, .sidebar, .fullscreen]

def name : Position → String
  | .unknown => "unknown"
  | .aboveFold => "above_fold"
  | .belowFold => "below_fold"
  | .header => "header"
  | .footer => "footer"
  | .sidebar => "sidebar"
  | .fullscreen => "fullscreen"

def ofName? (s : String) : Option Position := all.find? (·.name == s)

-- The OpenRTB code of a position; codes that are not listed say nothing.
def ofCode (code : Int) : Position :=
  match code with
  | 1 => .aboveFold
  | 3 => .belowFold
  | 4 => .header
  | 5 => .footer
  | 6 => .sidebar
  | 7 => .fullscreen
  | _ => .unknown

end Position
end DemandRouting
