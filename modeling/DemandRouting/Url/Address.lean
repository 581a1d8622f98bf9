import DemandRouting.Number.Power
import DemandRouting.Url.Domain

namespace DemandRouting.Url

def digitsValue (base : Nat) (cs : List Char) : Option Nat :=
  cs.foldlM (fun n c => do
    let d ← hexValue c
    if d < base then some (n * base + d) else none) 0

-- A part of an address: decimal, octal after a zero, hexadecimal after `0x`.
def addressPart? (cs : List Char) : Option Nat :=
  match cs with
  | [] => none
  | '0' :: 'x' :: rest => digitsValue 16 rest
  | '0' :: 'X' :: rest => digitsValue 16 rest
  | '0' :: d :: rest => digitsValue 8 (d :: rest)
  | cs => digitsValue 10 cs

-- The parts of a name, a final stop aside.
def nameParts (name : List Char) : List (List Char) :=
  let parts := splitOn (· == '.') name
  match parts.reverse with
  | [] :: front => front.reverse
  | _ => parts

-- Whether the last label reads as a number, which makes the name an IPv4 address or an error.
def endsInNumber (name : List Char) : Bool :=
  match (nameParts name).getLast? with
  | none => false
  | some last => (!last.isEmpty && last.all Char.isDigit) || (addressPart? last).isSome

-- The last part fills all the bytes that the others leave.
def ipv4? (name : List Char) : Option Nat := do
  let numbers ← (nameParts name).mapM addressPart?
  let front := numbers.dropLast
  let last ← numbers.getLast?
  if numbers.length ≤ 4 ∧ front.all (· < 256) ∧ last < 256 ^ (4 - front.length) then
    let (high, _) := front.foldl (fun (sum, place) n => (sum + n * 256 ^ place, place - 1)) (0, 3)
    some (high + last)
  else none

def decimalChars (n : Nat) : List Char := Nat.toDigits 10 n

def ipv4Chars (n : Nat) : List Char :=
  ['.'].intercalate ([3, 2, 1, 0].map fun place => decimalChars (n / 256 ^ place % 256))

-- Up to four hexadecimal digits.
def hexPiece (cs : List Char) : Option (Nat × List Char) :=
  let ds := (cs.take 4).takeWhile fun c => (hexValue c).isSome
  (digitsValue 16 ds).map (·, cs.drop ds.length)

-- A decimal byte without leading zeros.
def decimalByte (cs : List Char) : Option (Nat × List Char) :=
  let ds := cs.takeWhile Char.isDigit
  if ds.isEmpty ∨ 3 < ds.length ∨ (ds.length ≠ 1 ∧ ds.head? = some '0') then none
  else do
    let n ← digitsValue 10 ds
    if n < 256 then some (n, cs.drop ds.length) else none

-- The last four bytes written as an IPv4 address.
def embeddedIpv4 (cs : List Char) : Option (List Nat) := do
  let (a, cs) ← decimalByte cs
  let cs ← (if cs.head? = some '.' then some cs.tail else none)
  let (b, cs) ← decimalByte cs
  let cs ← (if cs.head? = some '.' then some cs.tail else none)
  let (c, cs) ← decimalByte cs
  let cs ← (if cs.head? = some '.' then some cs.tail else none)
  let (d, cs) ← decimalByte cs
  if cs.isEmpty then some [a * 256 + b, c * 256 + d] else none

-- The pieces of an address, and the place of the gap. At most eight pieces are read.
def ipv6Pieces : (room : Nat) → List Nat → Option Nat → List Char → Option (List Nat × Option Nat)
  | _, pieces, gap, [] => some (pieces, gap)
  | 0, _, _, _ :: _ => none
  | room + 1, pieces, gap, c :: rest =>
    if c = ':' then
      if gap.isSome then none else ipv6Pieces room pieces (some pieces.length) rest
    else do
      let (n, after) ← hexPiece (c :: rest)
      match after with
      | '.' :: _ =>
        let used := if gap.isSome then pieces.length + 1 else pieces.length
        if after.length = (c :: rest).length ∨ 6 < used then none
        else
          let bytes ← embeddedIpv4 (c :: rest)
          some (pieces ++ bytes, gap)
      | ':' :: after' =>
        if after'.isEmpty then none
        else ipv6Pieces room (pieces ++ [n]) gap after'
      | [] => some (pieces ++ [n], gap)
      | _ => none

def ipv6? (cs : List Char) : Option (List Nat) := do
  let (pieces, gap) ← match cs with
    | ':' :: ':' :: rest => ipv6Pieces 9 [] (some 0) rest
    | ':' :: _ => none
    | [] => none
    | cs => ipv6Pieces 9 [] none cs
  match gap with
  | some place =>
    if 8 ≤ pieces.length then none
    else
      some (pieces.take place ++ List.replicate (8 - pieces.length) 0 ++ pieces.drop place)
  | none => if pieces.length = 8 then some pieces else none

-- The longest run of at least two zeros, the first of equals: where it starts and its length.
def zeroRun : (index : Nat) → List Nat → Nat × Nat
  | _, [] => (0, 0)
  | i, n :: rest =>
    let run := ((n :: rest).takeWhile (· == 0)).length
    let (start, length) := zeroRun (i + 1) rest
    if 2 ≤ run ∧ length ≤ run then (i, run) else (start, length)

def hexChars (n : Nat) : List Char := Nat.toDigits 16 n

def ipv6Chars (pieces : List Nat) : List Char :=
  let (start, length) := zeroRun 0 pieces
  let join := fun ps : List Nat => [':'].intercalate (ps.map hexChars)
  if length < 2 then join pieces
  else join (pieces.take start) ++ "::".toList ++ join (pieces.drop (start + length))

end DemandRouting.Url
