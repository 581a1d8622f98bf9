import DemandRouting.Text.Composition
import DemandRouting.Text.Direction
import DemandRouting.Text.Joining
import DemandRouting.Url.Folding
import DemandRouting.Url.Punycode

namespace DemandRouting.Url

open Text

def isAscii (cs : List Char) : Bool := cs.all (·.toNat < 0x80)

-- ASCII characters that a host cannot hold.
def isForbidden (c : Char) : Bool :=
  c.toNat ≤ 0x20 || c.toNat == 0x7F ||
    c ∈ ['%', '#', '/', ':', '<', '>', '?', '@', '[', '\\', ']', '^', '|']

def nonJoiner : Char := '\u200C'
def joiner : Char := '\u200D'

-- Whether the first letter, marks aside, joins in one of those ways.
def joinsAs (ways : List Joining) (cs : List Char) : Bool :=
  (cs.dropWhile (joining · == .transparent)).head?.any fun c => ways.contains (joining c)

-- A joiner follows a virama. A non-joiner may also keep apart two letters that would join.
-- The text before the sign is given backwards.
def isJoinerSound (before : List Char) (sign : Char) (after : List Char) : Bool :=
  before.head?.any (combiningClass · == virama) ||
    (sign == nonJoiner && joinsAs [.left, .dual] before && joinsAs [.right, .dual] after)

def areJoinersSound (before : List Char) : List Char → Bool
  | [] => true
  | c :: after =>
    (c != nonJoiner && c != joiner || isJoinerSound before c after) &&
      areJoinersSound (c :: before) after

-- Characters that make it matter in which direction a name is written.
def isRightward (c : Char) : Bool :=
  [Direction.right, .arabicLetter, .arabicNumber].contains (direction c)

-- A label is written in one direction from its first character to its last, marks aside.
def isDirected (label : List Char) : Bool :=
  match label.map direction with
  | [] => true
  | first :: rest =>
    let rest := (rest.reverse.dropWhile (· == .mark)).reverse
    let numbers := [Direction.arabicNumber, .europeanNumber]
    let within := [Direction.europeanNumber, .europeanSeparator, .europeanTerminator,
      .commonSeparator, .neutral, .boundary, .mark]
    if first = .left then
      rest.all (fun d => d == .left || within.contains d) &&
        rest.getLast?.all fun d => d == .left || d == .europeanNumber
    else if first = .right ∨ first = .arabicLetter then
      rest.all (fun d => d == .right || d == .arabicLetter || d == .arabicNumber || within.contains d) &&
        (rest.getLast?.all fun d => d == .right || d == .arabicLetter || numbers.contains d) &&
        !numbers.all rest.contains
    else false

structure Label where
  text : List Char
  ascii : List Char

namespace Label

def longestText : Nat := 1000
def longestCode : Nat := 2000

-- A label has something for its first mark to combine with, and is not too long to be coded.
def isSound (text : List Char) : Bool :=
  !text.head?.any isMark && areJoinersSound [] text && (isAscii text || text.length ≤ longestText)

-- A code must stand for a text that only a code can write, in the spelling that names have.
def ofCode? (code : List Char) : Option (List Char) := do
  if code.isEmpty || code.getLast? == some '-' || longestCode < code.length then none
  let text ← Punycode.decode code
  if text.all (fun c => isFolded c && !isForbidden c && c != '.') && canonical text == text then
    some text
  else none

def ofChars? (cs : List Char) : Option Label := do
  let label ← match cs with
    | 'x' :: 'n' :: '-' :: '-' :: code => (ofCode? code).map (⟨·, cs⟩)
    | cs => some ⟨cs, if isAscii cs then cs else "xn--".toList ++ Punycode.encode cs⟩
  if isSound label.text then some label else none

end Label
end DemandRouting.Url
