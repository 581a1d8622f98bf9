import DemandRouting.Number.Power
import DemandRouting.Text.Blank

namespace DemandRouting

open Text

-- Twelve lower-case letters and digits.
abbrev FreshTag := Vector (Fin 36) 12

def FreshTag.char (d : Fin 36) : Char :=
  if d.val < 26 then Char.ofNat ('a'.toNat + d.val) else Char.ofNat ('0'.toNat + (d.val - 26))

def FreshTag.toChars (t : FreshTag) : List Char := t.toList.map FreshTag.char

-- An id and whether it was made up.
structure TrackingId where
  id : String
  generated : Bool
deriving DecidableEq, Repr

-- The given id without blanks around it, or the lead followed by a fresh tag.
def TrackingId.orFresh (given : Option String) (lead : String) (fresh : FreshTag) : TrackingId :=
  match given.bind nonBlank? with
  | some id => ⟨trim id, false⟩
  | none => ⟨lead ++ String.ofList fresh.toChars, true⟩

def publisherLead : String := "pub_"
def siteLead : String := "site_"
def adUnitLead : String := "unit_"

namespace Uuid

def hexDigit (n : Nat) : Char :=
  if n < 10 then Char.ofNat ('0'.toNat + n) else Char.ofNat ('a'.toNat + (n - 10))

-- The lowest `digits` hexadecimal digits.
def hexChars : (digits : Nat) → Nat → List Char
  | 0, _ => []
  | digits + 1, n => hexChars digits (n / 16) ++ [hexDigit (n % 16)]

-- The text of a version 4 identifier made from 128 random bits, six of which give way to version
-- and variant.
def v4 (bits : BitVec 128) : String :=
  let n := bits.toNat
  String.ofList (hexChars 8 (n / 2 ^ 96) ++ '-' :: hexChars 4 (n / 2 ^ 80) ++
    '-' :: '4' :: hexChars 3 (n / 2 ^ 64) ++ '-' :: hexDigit (8 + n / 2 ^ 62 % 4) ::
    hexChars 3 (n / 2 ^ 48) ++ '-' :: hexChars 12 n)

end Uuid

-- All that is made up for one impression.
structure FreshIds where
  request : BitVec 128
  publisher : FreshTag
  site : FreshTag
  adUnit : FreshTag

end DemandRouting
