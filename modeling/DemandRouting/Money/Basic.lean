import DemandRouting.Number.Power

namespace DemandRouting

-- A decimal that keeps its places, so that `1.50` and `1.5` are different amounts of equal value. A
-- zero has a sign only if it was rounded down from a negative amount.
structure Money where
  negative : Bool
  magnitude : Nat
  scale : Nat
  small : magnitude < 2 ^ 96
  shallow : scale ≤ 28

namespace Money

theorem ext_parts {a b : Money} (hn : a.negative = b.negative) (hm : a.magnitude = b.magnitude)
    (hs : a.scale = b.scale) : a = b := by
  cases a
  cases b
  simp only [Money.mk.injEq]
  exact ⟨hn, hm, hs⟩

instance : DecidableEq Money := fun a b =>
  if h : a.negative = b.negative ∧ a.magnitude = b.magnitude ∧ a.scale = b.scale then
    .isTrue (ext_parts h.1 h.2.1 h.2.2)
  else .isFalse fun hab => h (hab ▸ ⟨rfl, rfl, rfl⟩)

def zero : Money := ⟨false, 0, 0, by decide, by decide⟩

instance : Inhabited Money := ⟨zero⟩

-- How often the amount holds its smallest unit, `1 / 10 ^ scale`.
def units (a : Money) : Int := if a.negative then -(a.magnitude : Int) else a.magnitude

-- `units / 10 ^ scale`, if that many digits can be kept. A zero of this kind has no sign.
def make? (units : Int) (scale : Nat) : Option Money :=
  if h : units.natAbs < 2 ^ 96 ∧ scale ≤ 28 then
    some ⟨decide (units < 0), units.natAbs, scale, h.1, h.2⟩
  else none

-- The units that the amount has at a number of places not below its own.
def unitsAt (a : Money) (scale : Nat) : Int := a.units * 10 ^ (scale - a.scale)

-- Order by value, whatever the places.
def compare (a b : Money) : Ordering :=
  let scale := max a.scale b.scale
  Ord.compare (a.unitsAt scale) (b.unitsAt scale)

def le (a b : Money) : Bool := (compare a b).isLE

def isPositive (a : Money) : Bool := 0 < a.units

-- Divide by `10 ^ places` to the nearest, a half to the even neighbour.
def dropPlaces (n : Int) (places : Nat) : Int :=
  let step := 10 ^ places
  let q := n.natAbs / step
  let rest := 2 * (n.natAbs % step)
  let q' := if step < rest ∨ (step = rest ∧ q % 2 = 1) then q + 1 else q
  if n < 0 then -q' else q'

-- The amount `units / 10 ^ scale` at the largest number of places, up to `scale`, that it fits in.
def fit? (units : Int) : Nat → Nat → Option Money
  | dropped, 0 => make? (dropPlaces units dropped) 0
  | dropped, scale + 1 =>
    match make? (dropPlaces units dropped) (scale + 1) with
    | some a => some a
    | none => fit? units (dropped + 1) scale

-- The sum at the larger number of places, at fewer if it needs the room, and nothing if even the
-- whole part does not fit. A zero leaves the other amount as it is.
def add? (a b : Money) : Option Money :=
  if a.magnitude = 0 then some b
  else if b.magnitude = 0 then some a
  else
    let scale := max a.scale b.scale
    fit? (a.unitsAt scale + b.unitsAt scale) 0 scale

-- At most `places` places, a half to the even neighbour.
def roundTo (a : Money) (places : Nat) : Money :=
  if a.scale ≤ places then a
  else (make? (dropPlaces a.units (a.scale - places)) places).getD a

end Money
end DemandRouting
