import DemandRouting.Number.Binary

namespace DemandRouting.Percentile

def ascending (samples : List UInt64) : List UInt64 := samples.mergeSort fun a b => a ≤ b

-- How many of `n` samples lie at or below the percentile: 95 hundredths of them, rounded up.
def rankOf (n : Nat) : Nat := Number.ceilNat (Float.ofNat n * 0.95)

-- The sample at that rank; none of an empty list.
def p95? (samples : List UInt64) : Option UInt64 :=
  (ascending samples)[min (rankOf samples.length - 1) (samples.length - 1)]?

def p95 (samples : List UInt64) : Float := ((p95? samples).map UInt64.toFloat).getD 0.0

end DemandRouting.Percentile
