import DemandRouting.Money.Basic
import DemandRouting.Number.Binary

namespace DemandRouting.Money

-- Whole part and fraction are converted apart, and their sum is rounded to the places of the
-- amount.
def toFloat (a : Money) : Float :=
  let step := 10 ^ a.scale
  let whole := Float.ofNat (a.magnitude / step)
  let fraction := Float.ofNat (a.magnitude % step) / Float.ofNat step
  let magnitude :=
    if fraction == 0.0 then whole
    else
      let places := Float.ofNat step
      Number.roundHalfUp ((whole + fraction) * places) / places
  if a.negative then -magnitude else magnitude

-- Turn the powers of one half into powers of one tenth.
def absorbHalves : Nat → Nat → Int → Nat × Int
  | 0, bits, e10 => (bits, e10)
  | halves + 1, bits, e10 =>
    if bits % 2 = 0 then absorbHalves halves (bits / 2) (e10 + 1)
    else if bits * 5 < 2 ^ 96 then absorbHalves halves (bits * 5) e10
    else absorbHalves halves (bits / 2) (e10 + 1)

-- Turn the powers of two into powers of ten.
def absorbTwos : Nat → Nat → Int → Option (Nat × Int)
  | 0, bits, e10 => some (bits, e10)
  | twos + 1, bits, e10 =>
    if bits < 2 ^ 95 then absorbTwos twos (bits * 2) (e10 - 1)
    else if (twos + 1 : Int) < e10 * 2 then none
    else absorbTwos twos (bits / 5) e10

def expandTens : Nat → Nat → Option Nat
  | 0, bits => some bits
  | tens + 1, bits => if bits * 10 < 2 ^ 96 then expandTens tens (bits * 10) else none

-- Drop the places beyond the 28th, a half going up. Nothing is left of a number that small.
def dropDeep : Nat → Nat → Nat → Nat × Nat
  | 0, bits, scale => (bits, scale)
  | extra + 1, bits, scale =>
    if bits / 10 = 0 then (0, 0)
    else dropDeep extra (if 5 ≤ bits % 10 then bits / 10 + 1 else bits / 10) (scale - 1)

-- Drop places while there are more digits than a double carries.
def dropExcess (bits : Nat) : Nat → Nat × Nat
  | 0 => (bits, 0)
  | scale + 1 =>
    if bits < 2 ^ 52 then (bits, scale + 1)
    else dropExcess (if 5 ≤ bits % 10 then bits / 10 + 1 else bits / 10) scale

def dropZeros (bits : Nat) : Nat → Nat × Nat
  | 0 => (bits, 0)
  | scale + 1 => if bits % 10 = 0 then dropZeros (bits / 10) scale else (bits, scale + 1)

-- The amount next to a positive double, at no more places than the double is worth.
def ofPositiveFloat? (x : Float) : Option Money := do
  let b := Number.Binary.ofFloat x
  let (bits, e10) ←
    if b.exponent < 0 then some (absorbHalves b.exponent.natAbs b.significand b.exponent)
    else absorbTwos b.exponent.natAbs b.significand b.exponent
  let bits ← expandTens e10.toNat bits
  let scale := (-e10).toNat
  let (bits, scale) := dropDeep (scale - 28) bits scale
  let (bits, scale) := dropExcess bits scale
  let (bits, scale) := dropZeros bits scale
  make? bits scale

end DemandRouting.Money
