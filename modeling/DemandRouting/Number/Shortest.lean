import DemandRouting.Number.Binary

namespace DemandRouting.Number

-- `digits * 10 ^ exponent`
structure Decimal where
  digits : Nat
  exponent : Int
deriving DecidableEq, Repr

-- The reals that round to `significand * 2 ^ exponent`, counted in quarters of the last place.
-- Below a power of two the doubles are twice as dense, and so the lower half is half as long.
structure Rounding where
  low : Nat
  mid : Nat
  high : Nat
  closed : Bool
  -- one quarter of the last place is `num / den`
  num : Nat
  den : Nat

def Rounding.of (b : Binary) : Rounding :=
  let shift := b.exponent - 2
  let below := if b.significand = 2 ^ 52 ∧ -1074 < b.exponent then 1 else 2
  { low := 4 * b.significand - below
    mid := 4 * b.significand
    high := 4 * b.significand + 2
    closed := b.significand % 2 = 0
    num := 2 ^ shift.toNat
    den := 2 ^ (-shift).toNat }

-- Whether `digits * 10 ^ exponent` rounds to the double.
def Rounding.contains (r : Rounding) (d : Decimal) : Bool :=
  let x := d.digits * 10 ^ d.exponent.toNat * r.den
  let unit := r.num * 10 ^ (-d.exponent).toNat
  if r.closed then r.low * unit ≤ x && x ≤ r.high * unit
  else r.low * unit < x && x < r.high * unit

-- The grid point below the double, and whether the one above is nearer (an even one on a tie).
def Rounding.below (r : Rounding) (exponent : Int) : Nat × Bool :=
  let x := r.mid * r.num * 10 ^ (-exponent).toNat
  let unit := r.den * 10 ^ exponent.toNat
  let digits := x / unit
  let rest := 2 * (x % unit)
  (digits, unit < rest || (unit == rest && digits % 2 == 1))

-- The grid point with step `10 ^ exponent` that reads back, if there is one.
def Rounding.onGrid (r : Rounding) (exponent : Int) : Option Decimal :=
  let (digits, upper) := r.below exponent
  let lo : Decimal := ⟨digits, exponent⟩
  let hi : Decimal := ⟨digits + 1, exponent⟩
  match r.contains lo, r.contains hi with
  | true, true => some (if upper then hi else lo)
  | true, false => some lo
  | false, true => some hi
  | false, false => none

-- Try `steps` grids from `exponent` downwards. Of a grid only the two neighbours of the double can
-- lie between the bounds, so the first grid with a hit gives the fewest digits.
def Rounding.search (r : Rounding) (exponent : Int) : Nat → Decimal
  | 0 => (⟨(r.below exponent).1, exponent⟩ : Decimal)
  | steps + 1 =>
    match r.onGrid exponent with
    | some d => d
    | none => r.search (exponent - 1) steps

-- A grid so coarse that no point of a finer one is missed: `10 ^ coarsest` exceeds the magnitude.
def coarsest (b : Binary) : Int :=
  ((b.significand.log2 : Int) + b.exponent + 1) * 30103 / 100000 + 1

-- The digits of the magnitude of a finite double; 17 of them always suffice.
def shortest (x : Float) : Decimal :=
  let b := Binary.ofFloat x
  if b.significand = 0 then ⟨0, 0⟩ else (Rounding.of b).search (coarsest b) 20

def zeros (n : Nat) : List Char := List.replicate n '0'

-- The digits of a natural number, most significant first.
def digitsOf (n : Nat) : List Char := Nat.toDigits 10 n

-- Positional text without an exponent: whole numbers show no point.
def Decimal.positional (d : Decimal) : List Char :=
  let ds := digitsOf d.digits
  if 0 ≤ d.exponent then
    if d.digits = 0 then ['0'] else ds ++ zeros d.exponent.toNat
  else
    let places := (-d.exponent).toNat
    if ds.length ≤ places then '0' :: '.' :: zeros (places - ds.length) ++ ds
    else ds.take (ds.length - places) ++ '.' :: ds.drop (ds.length - places)

-- A number as messages show it.
def message (x : Float) : String :=
  if x.isNaN then "NaN"
  else
    let body := if x.isInf then "inf".toList else (shortest x).positional
    String.ofList (if signBit x then '-' :: body else body)

-- Always with a fraction or an exponent: positional between `1e-5` and `1e16`, scientific outside.
def Decimal.json (d : Decimal) : List Char :=
  let ds := digitsOf d.digits
  let point := (ds.length : Int) + d.exponent
  if d.digits = 0 then "0.0".toList
  else if -5 < point ∧ point ≤ 16 then
    if 0 ≤ d.exponent then d.positional ++ ".0".toList else d.positional
  else
    let scale := point - 1
    let power := 'e' :: (if scale < 0 then ['-'] else []) ++ digitsOf scale.natAbs
    match ds with
    | [] => power
    | c :: [] => c :: power
    | c :: rest => c :: '.' :: rest ++ power

-- A finite number as a JSON text shows it.
def jsonText (x : Float) : List Char :=
  let body := (shortest x).json
  if signBit x then '-' :: body else body

-- The double nearest to `± digits * 10 ^ exponent`, infinite when there is none. Exponents that
-- decide the answer by their size alone are not expanded.
def nearest (negative : Bool) (d : Decimal) : Float :=
  let places := ((digitsOf d.digits).length : Int) + d.exponent
  let magnitude : Float :=
    if d.digits = 0 ∨ places < -330 then 0.0
    else if 310 < places then 1.0 / 0.0
    else OfScientific.ofScientific d.digits (decide (d.exponent < 0)) d.exponent.natAbs
  if negative then -magnitude else magnitude

end DemandRouting.Number
