namespace DemandRouting.Text

-- The words between separators, empty ones left out.
def words (separates : Char → Bool) (text : String) : List (List Char) :=
  let (done, word) := text.toList.foldl
    (fun (done, word) c => if separates c then (word.reverse :: done, []) else (done, c :: word))
    ([], [])
  (word.reverse :: done).reverse.filter (!·.isEmpty)

-- The number that upper-case hexadecimal digits spell.
def hexNumber (cs : List Char) : Nat :=
  cs.foldl (fun n c => 16 * n + (if c.isDigit then c.toNat - 48 else c.toNat - 55)) 0

-- The text before a mark and the text after it.
def around (mark : Char) (cs : List Char) : List Char × List Char :=
  (cs.takeWhile (· != mark), (cs.dropWhile (· != mark)).drop 1)

structure Range (α : Type) where
  first : Nat
  last : Nat
  value : α

-- A range of one code point gives it once.
def Range.ofChars {α : Type} (read : List Char → α) (cs : List Char) : Range α :=
  let (codes, value) := around '=' cs
  let (first, last) := around '-' codes
  ⟨hexNumber first, hexNumber (if last.isEmpty then first else last), read value⟩

abbrev Ranges (α : Type) := Array (Range α)

namespace Ranges

def ofText {α : Type} (read : List Char → α) (text : String) : Ranges α :=
  ((words (fun c => c == ' ' || c == '\n') text).map (Range.ofChars read)).toArray

-- The range that holds `n` among those from the `low`-th up to the `high`-th.
def search {α : Type} (t : Ranges α) (n low high : Nat) : Option (Range α) :=
  if low < high then
    let middle := (low + high) / 2
    match t[middle]? with
    | none => none
    | some r =>
      if n < r.first then t.search n low middle
      else if r.last < n then t.search n (middle + 1) high
      else some r
  else none
termination_by high - low

def lookup {α : Type} (t : Ranges α) (c : Char) : Option (Range α) := t.search c.toNat 0 t.size

def value? {α : Type} (t : Ranges α) (c : Char) : Option α := (t.lookup c).map (·.value)

def holds (t : Ranges Unit) (c : Char) : Bool := (t.lookup c).isSome

end Ranges
end DemandRouting.Text
