import DemandRouting.Json.Value
import DemandRouting.Number.Power

namespace DemandRouting.Json

-- What is left of `s` once something was read. Reading recurses on its length.
abbrev Left (s : List Char) := { rest : List Char // rest.length < s.length }

def isSpace (c : Char) : Bool := c == ' ' || c == '\t' || c == '\n' || c == '\r'

theorem length_dropWhile_le (p : Char → Bool) (s : List Char) :
    (s.dropWhile p).length ≤ s.length :=
  (List.dropWhile_sublist p).length_le

def skipSpace (s : List Char) : List Char := s.dropWhile isSpace

theorem length_skipSpace_le (s : List Char) : (skipSpace s).length ≤ s.length :=
  length_dropWhile_le _ s

-- A run of decimal digits, at least one.
def digitRun (s : List Char) : Option (List Char × Left s) :=
  match s with
  | [] => none
  | c :: rest =>
    if c.isDigit then
      some (c :: rest.takeWhile Char.isDigit, ⟨rest.dropWhile Char.isDigit, by
        have := length_dropWhile_le Char.isDigit rest
        simp only [List.length_cons]
        omega⟩)
    else none

-- A whole part has no leading zero.
def wholePart (s : List Char) : Option (List Char × Left s) :=
  match s with
  | '0' :: rest => some (['0'], ⟨rest, by simp⟩)
  | s => digitRun s

def valueOf (digits : List Char) : Nat :=
  digits.foldl (fun n c => 10 * n + (c.toNat - '0'.toNat)) 0

-- The digits after a point, none if there is no point.
def fractionPart (s : List Char) : Option (List Char × { r : List Char // r.length ≤ s.length }) :=
  match s with
  | '.' :: rest => (digitRun rest).map fun (ds, left) => (ds, ⟨left.1, by
      have := left.2
      simp only [List.length_cons]
      omega⟩)
  | s => some ([], ⟨s, Nat.le_refl _⟩)

def signed (s : List Char) : Bool × { r : List Char // r.length ≤ s.length } :=
  match s with
  | '-' :: rest => (true, ⟨rest, by simp⟩)
  | '+' :: rest => (false, ⟨rest, by simp⟩)
  | s => (false, ⟨s, Nat.le_refl _⟩)

-- The power of ten, `none` inside if there is none.
def exponentPart (s : List Char) : Option (Option Int × { r : List Char // r.length ≤ s.length }) :=
  match s with
  | c :: rest =>
    if c = 'e' ∨ c = 'E' then
      let (negative, after) := signed rest
      (digitRun after.1).map fun (ds, left) =>
        (some (if negative then -(valueOf ds : Int) else valueOf ds), ⟨left.1, by
          have := left.2
          have := after.2
          simp only [List.length_cons]
          omega⟩)
    else some (none, ⟨c :: rest, Nat.le_refl _⟩)
  | [] => some (none, ⟨[], Nat.le_refl _⟩)

-- The longest run of digits that continues `n` within a 64-bit word, and what it leaves.
def keepDigits (n : Nat) : List Char → Nat × List Char
  | [] => (n, [])
  | c :: rest =>
    let next := 10 * n + (c.toNat - '0'.toNat)
    if next < 2 ^ 64 then keepDigits next rest else (n, c :: rest)

-- The digits of a literal that are kept, with the power of ten that stands for the others.
def significant (whole fraction : List Char) (power : Int) : Number.Decimal :=
  let (n, leftWhole) := keepDigits 0 whole
  let (digits, leftFraction) := keepDigits n fraction
  ⟨digits, power + leftWhole.length - (fraction.length - leftFraction.length : Nat)⟩

-- One multiplication or division by a power of ten, rounded; two divisions for numbers that a
-- single power cannot reach. Below `10 ^ -616` nothing is left.
def scaled (d : Number.Decimal) : Float :=
  let x := Number.nearest false ⟨d.digits, 0⟩
  let tenTo := fun n => Number.nearest false ⟨1, n⟩
  if d.digits = 0 ∨ d.exponent < -616 then 0.0
  else if 0 ≤ d.exponent then x * tenTo d.exponent
  else if -308 ≤ d.exponent then x / tenTo (-d.exponent)
  else x / tenTo 308 / tenTo (-d.exponent - 308)

-- A double, unless the number is beyond all of them.
def ofDecimal (negative : Bool) (d : Number.Decimal) : Json :=
  let x := scaled d
  if x.isFinite then .float (if negative then -x else x) else .illegible

-- Whole literals in the range of 64-bit words are integers; the others, and `-0`, are doubles.
def ofLiteral (negative : Bool) (whole fraction : List Char) (power : Option Int) : Json :=
  let digits := valueOf whole
  let asDouble := ofDecimal negative (significant whole fraction (power.getD 0))
  if fraction.isEmpty ∧ power.isNone then
    if negative then
      if digits = 0 ∨ 2 ^ 63 < digits then asDouble else .int (-digits)
    else if digits < 2 ^ 64 then .int digits else asDouble
  else asDouble

def number (s : List Char) : Option (Json × Left s) :=
  match s with
  | '-' :: s' => do
    let (whole, left) ← wholePart s'
    let (fraction, left') ← fractionPart left.1
    let (power, left'') ← exponentPart left'.1
    some (ofLiteral true whole fraction power, ⟨left''.1, by
      have := left.2
      have := left'.2
      have := left''.2
      simp only [List.length_cons]
      omega⟩)
  | s => do
    let (whole, left) ← wholePart s
    let (fraction, left') ← fractionPart left.1
    let (power, left'') ← exponentPart left'.1
    some (ofLiteral false whole fraction power, ⟨left''.1, by
      have := left.2
      have := left'.2
      have := left''.2
      omega⟩)

-- A character of a text as written: itself, or a 16-bit unit given by its number.
inductive Piece where
  | char (c : Char)
  | unit (n : Nat)

def hexDigit (c : Char) : Option Nat :=
  if '0' ≤ c ∧ c ≤ '9' then some (c.toNat - '0'.toNat)
  else if 'a' ≤ c ∧ c ≤ 'f' then some (c.toNat - 'a'.toNat + 10)
  else if 'A' ≤ c ∧ c ≤ 'F' then some (c.toNat - 'A'.toNat + 10)
  else none

def hexUnit (a b c d : Char) : Option Nat := do
  let a ← hexDigit a
  let b ← hexDigit b
  let c ← hexDigit c
  let d ← hexDigit d
  some (((a * 16 + b) * 16 + c) * 16 + d)

def unescape : Char → Option Char
  | '"' => some '"'
  | '\\' => some '\\'
  | '/' => some '/'
  | 'b' => some '\x08'
  | 'f' => some '\x0c'
  | 'n' => some '\n'
  | 'r' => some '\r'
  | 't' => some '\t'
  | _ => none

-- The pieces up to the closing quote, which is taken too. Control characters must be escaped.
def pieces (s : List Char) : Option (List Piece × Left s) :=
  match s with
  | [] => none
  | '"' :: rest => some ([], ⟨rest, by simp⟩)
  | '\\' :: 'u' :: a :: b :: c :: d :: rest => do
    let n ← hexUnit a b c d
    let (ps, left) ← pieces rest
    some (.unit n :: ps, ⟨left.1, by have := left.2; simp only [List.length_cons]; omega⟩)
  | '\\' :: e :: rest => do
    let c ← unescape e
    let (ps, left) ← pieces rest
    some (.char c :: ps, ⟨left.1, by have := left.2; simp only [List.length_cons]; omega⟩)
  | c :: rest =>
    if c.toNat < 0x20 ∨ c = '\\' then none
    else do
      let (ps, left) ← pieces rest
      some (.char c :: ps, ⟨left.1, by have := left.2; simp only [List.length_cons]; omega⟩)

def isHighUnit (n : Nat) : Bool := 0xD800 ≤ n && n < 0xDC00
def isLowUnit (n : Nat) : Bool := 0xDC00 ≤ n && n < 0xE000

-- The characters that the pieces spell; a surrogate unit outside a pair spells none.
def spell : List Piece → Option (List Char)
  | [] => some []
  | .char c :: ps => (spell ps).map (c :: ·)
  | .unit n :: ps =>
    if isHighUnit n then
      match ps with
      | .unit m :: ps' =>
        if isLowUnit m then
          (spell ps').map (Char.ofNat (0x10000 + (n - 0xD800) * 0x400 + (m - 0xDC00)) :: ·)
        else none
      | _ => none
    else if isLowUnit n then none
    else (spell ps).map (Char.ofNat n :: ·)

-- The rest of a text after its opening quote.
def quoted (s : List Char) : Option (Option String × Left s) :=
  (pieces s).map fun (ps, left) => ((spell ps).map String.ofList, left)

def ofMembers (members : List (Option String × Json)) : Json :=
  match members.mapM fun (key, value) => key.map (·, value) with
  | some ms => .object ms
  | none => .illegible

mutual

-- A value at the very start of the text.
def value (s : List Char) : Option (Json × Left s) :=
  match s with
  | 'n' :: 'u' :: 'l' :: 'l' :: rest => some (.null, ⟨rest, by simp only [List.length_cons]; omega⟩)
  | 't' :: 'r' :: 'u' :: 'e' :: rest =>
    some (.bool true, ⟨rest, by simp only [List.length_cons]; omega⟩)
  | 'f' :: 'a' :: 'l' :: 's' :: 'e' :: rest =>
    some (.bool false, ⟨rest, by simp only [List.length_cons]; omega⟩)
  | '"' :: rest => do
    let (t, left) ← quoted rest
    some (t.elim .illegible .text, ⟨left.1, by have := left.2; simp only [List.length_cons]; omega⟩)
  | '[' :: rest =>
    have hs := length_skipSpace_le rest
    match h : skipSpace rest with
    | ']' :: rest' => some (.list [], ⟨rest', by
        rw [h] at hs
        simp only [List.length_cons] at hs ⊢
        omega⟩)
    | rest' => do
      let (vs, left) ← items rest'
      some (.list vs, ⟨left.1, by
        have := left.2
        rw [h] at hs
        simp only [List.length_cons]
        omega⟩)
  | '{' :: rest =>
    have hs := length_skipSpace_le rest
    match h : skipSpace rest with
    | '}' :: rest' => some (.object [], ⟨rest', by
        rw [h] at hs
        simp only [List.length_cons] at hs ⊢
        omega⟩)
    | rest' => do
      let (ms, left) ← members rest'
      some (ofMembers ms, ⟨left.1, by
        have := left.2
        rw [h] at hs
        simp only [List.length_cons]
        omega⟩)
  | s => number s
termination_by (s.length, 0)
decreasing_by
  all_goals
    rw [h] at hs
    simp only [List.length_cons]
    exact Prod.Lex.left _ _ (by omega)

-- One or more values up to the closing bracket.
def items (s : List Char) : Option (List Json × Left s) := do
  let (v, left) ← value s
  have hs := length_skipSpace_le left.1
  match h : skipSpace left.1 with
  | ']' :: rest => some ([v], ⟨rest, by
      have := left.2
      rw [h] at hs
      simp only [List.length_cons] at hs
      omega⟩)
  | ',' :: rest => do
    have hn := length_skipSpace_le rest
    let (vs, left') ← items (skipSpace rest)
    some (v :: vs, ⟨left'.1, by
      have := left.2
      have := left'.2
      rw [h] at hs
      simp only [List.length_cons] at hs
      omega⟩)
  | _ => none
termination_by (s.length, 1)
decreasing_by
  · exact Prod.Lex.right _ (by omega)
  · have := left.2
    rw [h] at hs
    simp only [List.length_cons] at hs
    exact Prod.Lex.left _ _ (by omega)

-- One or more members up to the closing brace.
def members (s : List Char) : Option (List (Option String × Json) × Left s) :=
  match s with
  | '"' :: s' => do
    let (key, left) ← quoted s'
    have hk := length_skipSpace_le left.1
    match hc : skipSpace left.1 with
    | ':' :: s'' => do
      have hv := length_skipSpace_le s''
      let (v, left') ← value (skipSpace s'')
      have hs := length_skipSpace_le left'.1
      match h : skipSpace left'.1 with
      | '}' :: rest => some ([(key, v)], ⟨rest, by
          have := left.2
          have := left'.2
          rw [h] at hs
          rw [hc] at hk
          simp only [List.length_cons] at hs hk ⊢
          omega⟩)
      | ',' :: rest => do
        have hn := length_skipSpace_le rest
        let (ms, left'') ← members (skipSpace rest)
        some ((key, v) :: ms, ⟨left''.1, by
          have := left.2
          have := left'.2
          have := left''.2
          rw [h] at hs
          rw [hc] at hk
          simp only [List.length_cons] at hs hk ⊢
          omega⟩)
      | _ => none
    | _ => none
  | _ => none
termination_by (s.length, 1)
decreasing_by
  · have := left.2
    rw [hc] at hk
    simp only [List.length_cons] at hk ⊢
    exact Prod.Lex.left _ _ (by omega)
  · have := left.2
    have := left'.2
    rw [h] at hs
    rw [hc] at hk
    simp only [List.length_cons] at hs hk ⊢
    exact Prod.Lex.left _ _ (by omega)

end

-- The value of a whole text.
def read (s : String) : Option Json := do
  let (v, left) ← value (skipSpace s.toList)
  if (skipSpace left.1).isEmpty then some v else none

end DemandRouting.Json
