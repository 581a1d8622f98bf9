import DemandRouting.Number.Power

namespace DemandRouting

-- Seconds since 1970 in UTC, and nanoseconds within the second. A leap second is the last second of
-- its minute with a nanosecond count of `10 ^ 9` and more.
structure Timestamp where
  second : Int
  nano : Nat
deriving DecidableEq, Inhabited

namespace Timestamp

def billion : Nat := 10 ^ 9

-- Move by whole seconds, which are all that is needed here. Leaving a leap second forwards counts
-- from the second before it, leaving it backwards from the second after.
def addSeconds (t : Timestamp) (n : Int) : Timestamp :=
  if t.nano < billion ∨ n = 0 then { t with second := t.second + n }
  else if 0 < n then ⟨t.second + n, t.nano - billion⟩
  else ⟨t.second + 1 + n, t.nano - billion⟩

-- The minute that the moment falls in, counted from 1970 and negative before it.
def minute (t : Timestamp) : Int := t.second.fdiv 60

-- Days since 1970-01-01.
def day (t : Timestamp) : Int := t.second.fdiv 86400

def secondOfDay (t : Timestamp) : Nat := (t.second.fmod 86400).toNat

def hour (t : Timestamp) : Nat := t.secondOfDay / 3600

-- Days since Monday; 1970 began on a Thursday.
def weekday (t : Timestamp) : Nat := ((t.day + 3).fmod 7).toNat

end Timestamp
end DemandRouting
