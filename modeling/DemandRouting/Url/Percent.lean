namespace DemandRouting.Url

def hexUpper (n : Nat) : Char :=
  if n < 10 then Char.ofNat ('0'.toNat + n) else Char.ofNat ('A'.toNat + (n - 10))

def percentByte (b : UInt8) : List Char :=
  ['%', hexUpper (b.toNat / 16), hexUpper (b.toNat % 16)]

-- A character as its percent-encoded UTF-8 bytes if it is in the set, else as itself.
def encodeChar (set : Char → Bool) (c : Char) : List Char :=
  if set c then (String.utf8EncodeChar c).flatMap percentByte else [c]

def encode (set : Char → Bool) (cs : List Char) : List Char := cs.flatMap (encodeChar set)

def isControl (c : Char) : Bool := c.toNat < 0x20 || 0x7F ≤ c.toNat

-- The characters that the parts of a URL encode.
def fragmentSet (c : Char) : Bool := isControl c || c ∈ [' ', '"', '<', '>', '`']

def querySet (c : Char) : Bool := isControl c || c ∈ [' ', '"', '#', '<', '>']

def specialQuerySet (c : Char) : Bool := querySet c || c == '\''

def pathSet (c : Char) : Bool := fragmentSet c || c ∈ ['#', '?', '\x7b', '\x7d']

def segmentSet (c : Char) : Bool := pathSet c || c == '/' || c == '%'

def specialSegmentSet (c : Char) : Bool := segmentSet c || c == '\\'

def userinfoSet (c : Char) : Bool :=
  pathSet c || c ∈ ['/', ':', ';', '=', '@', '[', '\\', ']', '^', '|']

-- A query pair keeps letters, digits and four marks; a blank becomes a plus.
def formChar (c : Char) : List Char :=
  if c = ' ' then ['+']
  else encodeChar (fun c => !(c.isAlphanum || c ∈ ['*', '-', '.', '_'])) c

def form (cs : List Char) : List Char := cs.flatMap formChar

def hexValue (c : Char) : Option Nat :=
  if '0' ≤ c ∧ c ≤ '9' then some (c.toNat - '0'.toNat)
  else if 'a' ≤ c ∧ c ≤ 'f' then some (c.toNat - 'a'.toNat + 10)
  else if 'A' ≤ c ∧ c ≤ 'F' then some (c.toNat - 'A'.toNat + 10)
  else none

-- The bytes of a text, every well-formed escape replaced by its byte.
def decodeBytes : List Char → List UInt8
  | [] => []
  | '%' :: a :: b :: rest =>
    match hexValue a, hexValue b with
    | some x, some y => UInt8.ofNat (16 * x + y) :: decodeBytes rest
    | _, _ => String.utf8EncodeChar '%' ++ decodeBytes (a :: b :: rest)
  | c :: rest => String.utf8EncodeChar c ++ decodeBytes rest

-- Nothing if the bytes are no UTF-8.
def decode (cs : List Char) : Option (List Char) :=
  (String.fromUTF8? (decodeBytes cs).toByteArray).map String.toList

end DemandRouting.Url
