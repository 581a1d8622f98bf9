namespace DemandRouting.Digest

-- SipHash with one round per word, three at the end and a key of zero.
structure State where
  v0 : UInt64
  v1 : UInt64
  v2 : UInt64
  v3 : UInt64

def rotate (x k : UInt64) : UInt64 := (x <<< k) ||| (x >>> (64 - k))

def start : State := ⟨0x736f6d6570736575, 0x646f72616e646f6d, 0x6c7967656e657261, 0x7465646279746573⟩

def round (s : State) : State :=
  let v0 := s.v0 + s.v1
  let v1 := rotate s.v1 13 ^^^ v0
  let v0 := rotate v0 32
  let v2 := s.v2 + s.v3
  let v3 := rotate s.v3 16 ^^^ v2
  let v0 := v0 + v3
  let v3 := rotate v3 21 ^^^ v0
  let v2 := v2 + v1
  let v1 := rotate v1 17 ^^^ v2
  ⟨v0, v1, rotate v2 32, v3⟩

def absorb (s : State) (m : UInt64) : State :=
  let s := round { s with v3 := s.v3 ^^^ m }
  { s with v0 := s.v0 ^^^ m }

-- The lowest byte first.
def littleEndian (bytes : List UInt8) : UInt64 :=
  bytes.foldr (fun b m => (m <<< 8) ||| b.toUInt64) 0

-- Absorb the bytes in words of eight and, last, what is left below the length of the whole.
def absorbAll (length : Nat) (s : State) : List UInt8 → State
  | a :: b :: c :: d :: e :: f :: g :: h :: rest =>
    absorbAll length (absorb s (littleEndian [a, b, c, d, e, f, g, h])) rest
  | rest => absorb s ((UInt64.ofNat length <<< 56) ||| littleEndian rest)

def ofBytes (bytes : List UInt8) : UInt64 :=
  let s := absorbAll bytes.length start bytes
  let s := round (round (round { s with v2 := s.v2 ^^^ 0xff }))
  s.v0 ^^^ s.v1 ^^^ s.v2 ^^^ s.v3

-- A text ends with a byte that no text contains.
def ofText (s : String) : UInt64 := ofBytes (s.toUTF8.toList ++ [0xff])

end DemandRouting.Digest
