import DemandRouting.Number.Power

namespace DemandRouting.Url.Punycode

def digitChar (d : Nat) : Char :=
  if d < 26 then Char.ofNat ('a'.toNat + d) else Char.ofNat ('0'.toNat + (d - 26))

def digitValue (c : Char) : Option Nat :=
  if 'a' ≤ c ∧ c ≤ 'z' then some (c.toNat - 'a'.toNat)
  else if 'A' ≤ c ∧ c ≤ 'Z' then some (c.toNat - 'A'.toNat)
  else if '0' ≤ c ∧ c ≤ '9' then some (c.toNat - '0'.toNat + 26)
  else none

-- The first weight that ends a number at position `k`.
def threshold (k bias : Nat) : Nat := max 1 (min 26 (k - bias))

theorem one_le_threshold (k bias : Nat) : 1 ≤ threshold k bias := Nat.le_max_left _ _

def shrink (delta k : Nat) : Nat × Nat :=
  if 455 < delta then shrink (delta / 35) (k + 36) else (delta, k)
termination_by delta
decreasing_by exact Nat.div_lt_self (by omega) (by omega)

def adapt (delta points : Nat) (first : Bool) : Nat :=
  let delta := if first then delta / 700 else delta / 2
  let (delta, k) := shrink (delta + delta / points) 0
  k + 36 * delta / (delta + 38)

def number (bias k q : Nat) : List Char :=
  let t := threshold k bias
  if q < t then [digitChar q]
  else digitChar (t + (q - t) % (36 - t)) :: number bias (k + 36) ((q - t) / (36 - t))
termination_by q
decreasing_by
  have h1 := one_le_threshold k bias
  exact Nat.lt_of_le_of_lt (Nat.div_le_self _ _) (by omega)

structure Encoding where
  delta : Nat := 0
  bias : Nat := 72
  handled : Nat
  first : Bool := true
  written : List Char := []

-- Write every occurrence of `point`.
def Encoding.point (basic : Nat) (e : Encoding) (point : Nat) (label : List Char) : Encoding :=
  label.foldl (fun e c =>
    if c.toNat < point then { e with delta := e.delta + 1 }
    else if c.toNat = point then
      { delta := 0
        bias := adapt e.delta (e.handled + 1) (e.handled == basic)
        handled := e.handled + 1
        written := e.written ++ number e.bias 36 e.delta }
    else e) e

-- The points in ascending order, each once; `next` is the first one that is not yet passed.
def Encoding.points (basic : Nat) (label : List Char) : List Nat → Nat → Encoding → Encoding
  | [], _, e => e
  | point :: rest, next, e =>
    let e := { e with delta := e.delta + (point - next) * (e.handled + 1) }
    let e := e.point basic point label
    points basic label rest (point + 1) { e with delta := e.delta + 1 }

def insertPoint (n : Nat) : List Nat → List Nat
  | [] => [n]
  | m :: rest => if n < m then n :: m :: rest else if n = m then m :: rest else m :: insertPoint n rest

def encode (label : List Char) : List Char :=
  let basic := label.filter fun c => c.toNat < 0x80
  let extended := (label.filter fun c => 0x80 ≤ c.toNat).foldr (fun c ps => insertPoint c.toNat ps) []
  let start := if basic.isEmpty then [] else basic ++ ['-']
  start ++ (Encoding.points basic.length label extended 0x80 { handled := basic.length }).written

-- One number: its value and the rest of the digits. Weights are words of 32 bits.
def readNumber (bias : Nat) : List Char → (k weight value : Nat) → Option (Nat × List Char)
  | [], _, _, _ => none
  | c :: rest, k, weight, value => do
    let d ← digitValue c
    let value := value + d * weight
    let t := threshold k bias
    if d < t then some (value, rest)
    else if 2 ^ 32 ≤ weight * (36 - t) then none
    else readNumber bias rest (k + 36) (weight * (36 - t)) value

theorem length_readNumber {bias : Nat} {cs : List Char} {k w v n : Nat} {rest : List Char}
    (h : readNumber bias cs k w v = some (n, rest)) : rest.length < cs.length := by
  induction cs generalizing k w v with
  | nil => simp [readNumber] at h
  | cons c cs ih =>
    simp only [readNumber] at h
    cases hd : digitValue c with
    | none => simp [hd] at h
    | some d =>
      simp only [hd, Option.bind_eq_bind, Option.bind_some] at h
      split at h
      · simp only [Option.some.injEq, Prod.mk.injEq] at h
        simp [h.2]
      · split at h
        · simp at h
        · have := ih h
          simp only [List.length_cons]
          omega

def readPoints (cs : List Char) (n i bias : Nat) (out : List Char) : Option (List Char) :=
  if cs.isEmpty then some out
  else
    match h : readNumber bias cs 36 1 0 with
    | none => none
    | some (delta, rest) =>
      let length := out.length + 1
      let position := i + delta
      let point := n + position / length
      if 0x110000 ≤ point ∨ (0xD800 ≤ point ∧ point < 0xE000) then none
      else
        let index := position % length
        have : rest.length < cs.length := length_readNumber h
        readPoints rest point (index + 1) (adapt delta length (i == 0))
          (out.insertIdx index (Char.ofNat point))
termination_by cs.length

-- The part up to the last hyphen stands for itself. A hyphen with nothing before it is no digit.
def decode (label : List Char) : Option (List Char) :=
  let back := label.reverse
  let digits := (back.takeWhile (· != '-')).reverse
  let basic := ((back.dropWhile (· != '-')).drop 1).reverse
  if label.head? = some '-' ∧ basic.isEmpty ∨ !basic.all (·.toNat < 0x80) then none
  else readPoints digits 0x80 0 72 basic

end DemandRouting.Url.Punycode
