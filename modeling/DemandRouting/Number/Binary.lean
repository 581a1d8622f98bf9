import DemandRouting.Number.Power

namespace DemandRouting.Number

-- A finite double's magnitude is `significand * 2 ^ exponent`.
structure Binary where
  significand : Nat
  exponent : Int
deriving DecidableEq, Repr

-- The magnitude of a finite double. Infinities and NaN have no meaningful reading.
def Binary.ofFloat (x : Float) : Binary :=
  let bits := x.toBits.toNat
  let mantissa := bits % 2 ^ 52
  let biased := bits / 2 ^ 52 % 2 ^ 11
  if biased = 0 then ⟨mantissa, -1074⟩ else ⟨2 ^ 52 + mantissa, Int.ofNat biased - 1075⟩

-- The sign bit, set for negative zero as well.
def signBit (x : Float) : Bool := 2 ^ 63 ≤ x.toBits.toNat

-- The least natural number that is not below `x`, for `x` in `[0, 2 ^ 64)`.
def ceilNat (x : Float) : Nat :=
  let floor := x.toUInt64
  if floor.toFloat < x then floor.toNat + 1 else floor.toNat

-- The nearest integer for `x ≥ 0`, a half going up. From `2 ^ 52` on every double is an integer.
def roundHalfUp (x : Float) : Float :=
  if x < 4503599627370496.0 then
    let floor := x.toUInt64
    if x - floor.toFloat < 0.5 then floor.toFloat else (floor + 1).toFloat
  else x

-- The place of a double in the total order that puts `-0.0` before `0.0`, every number between the
-- infinities, and NaN after all of them. There is only one NaN here. One with its sign set, which
-- that order puts before all numbers, cannot be told from it.
def rank (x : Float) : Int :=
  let bits := x.toBits.toNat
  if bits < 2 ^ 63 then (bits : Int) else -((bits - 2 ^ 63 : Nat) : Int) - 1

-- Bring `x` into `[low, high]`. NaN compares with nothing and comes back as it is.
def clamp (low high x : Float) : Float :=
  if x < low then low else if high < x then high else x

end DemandRouting.Number
