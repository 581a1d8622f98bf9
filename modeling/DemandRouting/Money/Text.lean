import DemandRouting.Json.Codec
import DemandRouting.Money.Basic

namespace DemandRouting.Money

def toChars (a : Money) : List Char :=
  let ds := Number.digitsOf a.magnitude
  let body :=
    if a.scale = 0 then ds
    else
      let padded := Number.zeros (a.scale + 1 - ds.length) ++ ds
      padded.take (padded.length - a.scale) ++ '.' :: padded.drop (padded.length - a.scale)
  if a.negative then '-' :: body else body

def toText (a : Money) : String := String.ofList a.toChars

-- The digits of a number with at most one point in it, and how many of them follow the point.
-- A low line may separate digits. The digits are long once they no longer leave room for one more
-- in a 64-bit word.
structure Digits where
  value : Nat := 0
  places : Nat := 0
  pointed : Bool := false
  seen : Bool := false
  long : Bool := false

namespace Digits

def append (d : Digits) (c : Char) : Nat := 10 * d.value + (c.toNat - '0'.toNat)

def push (d : Digits) (c : Char) : Option Digits :=
  if c.isDigit then
    some
      { d with
        value := d.append c
        places := if d.pointed then d.places + 1 else 0
        seen := true
        long := decide (2 ^ 64 / 10 - 255 ≤ d.value) }
  else if c = '.' ∧ !d.pointed then some { d with pointed := true }
  else if c = '_' ∧ d.seen then some d
  else none

-- After the point nothing is kept once there are 28 places or the next digit needs more than 96
-- bits. A low line between long digits and the one that rounds them is passed over.
def isFull (d : Digits) (c : Char) : Bool :=
  d.pointed &&
    (d.places == 28 && !(d.long && c == '_') || c.isDigit && decide (2 ^ 96 ≤ d.append c))

-- The first character that is not kept rounds the digits, up from five. A low line or a further
-- point counts as a nought. A carry into a further bit costs a place.
def round? (d : Digits) (c : Char) : Option Digits :=
  if c.isDigit ∧ '5'.toNat ≤ c.toNat then
    if d.value + 1 < 2 ^ 96 then some { d with value := d.value + 1 }
    else if d.places = 0 then none
    else some { d with value := (d.value + 5) / 10, places := d.places - 1 }
  else if c.isDigit ∨ c = '_' ∨ c = '.' then some d
  else none

-- What follows the character that rounds is not looked at.
def ofChars? (d : Digits) : List Char → Option Digits
  | [] => if d.seen then some d else none
  | c :: rest =>
    if d.isFull c then d.round? c
    else
      match d.push c with
      | some next => next.ofChars? rest
      | none => none

end Digits

def ofPlainChars? (cs : List Char) : Option Money := do
  let (negative, cs) := match cs with
    | '-' :: rest => (true, rest)
    | '+' :: rest => (false, rest)
    | cs => (false, cs)
  let d ← Digits.ofChars? {} cs
  make? (if negative then -(d.value : Int) else d.value) d.places

def ofNatChars? (cs : List Char) : Option Nat :=
  let cs := match cs with
    | '+' :: rest => rest
    | cs => cs
  if cs.isEmpty || !cs.all Char.isDigit then none
  else some (cs.foldl (fun n c => 10 * n + (c.toNat - '0'.toNat)) 0)

-- At exactly `places` places, a half going away from zero. The sign stays, also on a zero.
def rescale (a : Money) (places : Nat) (_ : places < a.scale) : Money :=
  let step := 10 ^ (a.scale - places)
  have hstep : 10 ≤ step := by
    have h : 10 ^ 1 ≤ 10 ^ (a.scale - places) := Nat.pow_le_pow_right (by decide) (by omega)
    simpa using h
  { negative := a.negative
    magnitude := (a.magnitude + step / 2) / step
    scale := places
    small := by
      have := a.small
      rw [Nat.div_lt_iff_lt_mul (by omega)]
      have : 2 ^ 96 * 10 ≤ 2 ^ 96 * step := Nat.mul_le_mul_left _ hstep
      omega
    shallow := by have := a.shallow; omega }

-- Shift the point to the left. What would come to stand behind the 28th place is rounded off.
def shiftDown? (a : Money) (n : Nat) : Option Money :=
  if hn : 28 < n then none
  else if h : a.scale + n ≤ 28 then some { a with scale := a.scale + n, shallow := h }
  else
    let kept := a.rescale (28 - n) (by omega)
    some { kept with scale := 28, shallow := by decide }

-- Shift the point to the right. Places that the number has are used up first.
def shiftUp? (a : Money) (n : Nat) : Option Money :=
  if n ≤ a.scale then make? a.units (a.scale - n)
  else if n ≤ a.scale + 28 then make? (a.units * 10 ^ (n - a.scale)) 0
  else none

def shift? (a : Money) : List Char → Option Money
  | '-' :: power => do a.shiftDown? (← ofNatChars? power)
  | power => do a.shiftUp? (← ofNatChars? power)

def ofScientificChars? (cs : List Char) : Option Money :=
  let isMark := fun c => c == 'e' || c == 'E'
  match cs.dropWhile (!isMark ·) with
  | [] => none
  | _ :: power => do (← ofPlainChars? (cs.takeWhile (!isMark ·))).shift? power

def ofChars? (cs : List Char) : Option Money :=
  match ofScientificChars? cs with
  | some a => some a
  | none => ofPlainChars? cs

def ofText? (s : String) : Option Money := ofChars? s.toList

-- Amounts are written as text. A number is read as the amount that its shortest digits spell.
def codec : Codec Money where
  read
    | .text s => ofText? s
    | .int n => make? n 0
    | .float x => ofText? (Number.message x)
    | _ => none
  write a := .text a.toText

end DemandRouting.Money
