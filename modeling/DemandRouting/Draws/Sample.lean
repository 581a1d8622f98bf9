import DemandRouting.Draws.Stream

namespace DemandRouting.Stream

-- Put `j` in front of `t`.
def insertBefore (t j : Nat) : List Nat → List Nat
  | [] => [j]
  | x :: xs => if x = t then j :: x :: xs else x :: insertBefore t j xs

-- Samples below this size are in random order as they are built, others are shuffled afterwards.
def orderedSize : Nat := 50

-- Take in `t`, a random place up to `j`; `j` stands in for a place that is taken.
def takeIn (ordered : Bool) (picked : List Nat) (j t : Nat) : List Nat :=
  if picked.contains t then
    if ordered then insertBefore t j picked else picked ++ [j]
  else picked ++ [t]

-- Take in one place for each of the given ones.
def takeEach (ordered : Bool) : List Nat → List Nat → Stream → List Nat × Stream
  | [], picked, s => (picked, s)
  | j :: js, picked, s =>
    let (t, s) := s.upTo j
    takeEach ordered js (takeIn ordered picked j t) s

-- Swap places `i`, `i - 1`, …, `1`, each with a random one up to itself.
def shuffle : (i : Nat) → Array Nat → Stream → Array Nat × Stream
  | 0, places, s => (places, s)
  | i + 1, places, s =>
    let (j, s) := s.upTo (i + 1)
    shuffle i (places.swapIfInBounds (i + 1) j) s

def builtUp (length amount : Nat) (s : Stream) : List Nat × Stream :=
  let js := List.range' (length - amount) amount
  let (picked, s) := takeEach (decide (amount < orderedSize)) js [] s
  if amount < orderedSize then (picked, s)
  else
    let (places, s) := shuffle (amount - 1) picked.toArray s
    (places.toList, s)

-- Swap the next `count` places from `i` on, each with a random one from itself to the end.
def shuffleFront (length : Nat) : (count i : Nat) → Array Nat → Stream → Array Nat × Stream
  | 0, _, places, s => (places, s)
  | count + 1, i, places, s =>
    let (j, s) := s.upTo (length - 1 - i)
    shuffleFront length count (i + 1) (places.swapIfInBounds i (i + j)) s

def front (length amount : Nat) (s : Stream) : List Nat × Stream :=
  let (places, s) := shuffleFront length amount 0 (Array.range length) s
  (places.toList.take amount, s)

-- Whether a list of all places is worth its while: the sample is large, or it is not small and the
-- places are fewer than `1.6 amount ^ 2 + 10 amount`.
def isDense (length amount : Nat) : Bool :=
  163 ≤ amount || (11 < amount && 5 * length < (50 + 8 * amount) * amount)

-- `amount` of `length` places.
def sample (length amount : Nat) (s : Stream) : List Nat × Stream :=
  if isDense length amount then front length amount s else builtUp length amount s

end DemandRouting.Stream
