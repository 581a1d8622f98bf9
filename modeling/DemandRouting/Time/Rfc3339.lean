import DemandRouting.Json.Codec
import DemandRouting.Number.Shortest
import DemandRouting.Time.Calendar
import DemandRouting.Time.Timestamp

namespace DemandRouting.Timestamp

def padded (width n : Nat) : List Char :=
  let ds := Number.digitsOf n
  Number.zeros (width - ds.length) ++ ds

-- The fewest of 0, 3, 6 or 9 places that are exact.
def fractionChars (nano : Nat) : List Char :=
  if nano = 0 then []
  else if nano % 1000000 = 0 then '.' :: padded 3 (nano / 1000000)
  else if nano % 1000 = 0 then '.' :: padded 6 (nano / 1000)
  else '.' :: padded 9 nano

def yearChars (year : Int) : List Char :=
  if year < 0 then '-' :: padded 4 year.natAbs
  else if 9999 < year then '+' :: padded 5 year.natAbs
  else padded 4 year.natAbs

def toChars (t : Timestamp) : List Char :=
  let date := Calendar.Date.ofDays t.day
  let clock := t.secondOfDay
  let leap := billion ≤ t.nano
  yearChars date.year ++ '-' :: padded 2 date.month ++ '-' :: padded 2 date.day ++
    'T' :: padded 2 (clock / 3600) ++ ':' :: padded 2 (clock / 60 % 60) ++
    ':' :: padded 2 (if leap then clock % 60 + 1 else clock % 60) ++
    fractionChars (if leap then t.nano - billion else t.nano) ++ ['Z']

def toText (t : Timestamp) : String := String.ofList t.toChars

-- Exactly `width` digits.
def takeNumber (width : Nat) (cs : List Char) : Option (Nat × List Char) :=
  let ds := cs.take width
  if ds.length = width ∧ ds.all Char.isDigit then
    some (ds.foldl (fun n c => 10 * n + (c.toNat - '0'.toNat)) 0, cs.drop width)
  else none

def takeChar (p : Char → Bool) : List Char → Option (List Char)
  | c :: rest => if p c then some rest else none
  | [] => none

-- Nanoseconds; places beyond the ninth are passed over.
def takeFraction : List Char → Option (Nat × List Char)
  | '.' :: rest =>
    let ds := rest.takeWhile Char.isDigit
    if ds.isEmpty then none
    else
      let kept := (ds ++ Number.zeros 9).take 9
      some (kept.foldl (fun n c => 10 * n + (c.toNat - '0'.toNat)) 0, rest.dropWhile Char.isDigit)
  | cs => some (0, cs)

-- Seconds east of Greenwich.
def takeOffset (cs : List Char) : Option (Int × List Char) :=
  match cs with
  | [] => none
  | c :: rest =>
    if c = 'Z' ∨ c = 'z' then some (0, rest)
    else if c = '+' ∨ c = '-' then do
      let (hours, rest) ← takeNumber 2 rest
      let rest ← takeChar (· == ':') rest
      let (minutes, rest) ← takeNumber 2 rest
      if hours < 24 ∧ minutes < 60 then
        let offset : Int := (hours * 3600 + minutes * 60 : Nat)
        some (if c = '-' then -offset else offset, rest)
      else none
    else none

def ofChars? (cs : List Char) : Option Timestamp := do
  let (year, cs) ← takeNumber 4 cs
  let cs ← takeChar (· == '-') cs
  let (month, cs) ← takeNumber 2 cs
  let cs ← takeChar (· == '-') cs
  let (day, cs) ← takeNumber 2 cs
  let cs ← takeChar (fun c => c == 'T' || c == 't' || c == ' ') cs
  let (hour, cs) ← takeNumber 2 cs
  let cs ← takeChar (· == ':') cs
  let (minute, cs) ← takeNumber 2 cs
  let cs ← takeChar (· == ':') cs
  let (second, cs) ← takeNumber 2 cs
  let (nano, cs) ← takeFraction cs
  let (offset, cs) ← takeOffset cs
  let date : Calendar.Date := ⟨year, month, day⟩
  if cs.isEmpty ∧ date.isValid ∧ hour < 24 ∧ minute < 60 ∧ second ≤ 60 then
    let clock : Int := (hour * 3600 + minute * 60 + min second 59 : Nat)
    some ⟨date.toDays * 86400 + clock - offset, if second = 60 then nano + billion else nano⟩
  else none

def ofText? (s : String) : Option Timestamp := ofChars? s.toList

def codec : Codec Timestamp where
  read
    | .text s => ofText? s
    | _ => none
  write t := .text t.toText

end DemandRouting.Timestamp
