namespace DemandRouting.Text

-- The characters with the Unicode property `White_Space`. The zero-width space and the byte order
-- mark do not have it.
def isBlank (c : Char) : Bool :=
  let n := c.toNat
  (0x09 ≤ n && n ≤ 0x0D) || n == 0x20 || n == 0x85 || n == 0xA0 || n == 0x1680 ||
    (0x2000 ≤ n && n ≤ 0x200A) || n == 0x2028 || n == 0x2029 || n == 0x202F || n == 0x205F ||
    n == 0x3000

-- Drop the characters satisfying `p` from both ends.
def stripChars (p : Char → Bool) (cs : List Char) : List Char :=
  ((cs.dropWhile p).reverse.dropWhile p).reverse

def trim (s : String) : String := String.ofList (stripChars isBlank s.toList)

-- Empty once trimmed.
def isBlankText (s : String) : Bool := s.toList.all isBlank

-- A text with something in it besides blanks.
def nonBlank? (s : String) : Option String := if isBlankText s then none else some s

-- ASCII letters only; every other character is left alone.
def lowerAscii (s : String) : String := s.map Char.toLower

def fragmentIn (fragment : List Char) : List Char → Bool
  | [] => fragment.isEmpty
  | c :: rest => fragment.isPrefixOf (c :: rest) || fragmentIn fragment rest

-- Whether `fragment` stands somewhere in `s`.
def mentions (s fragment : String) : Bool := fragmentIn fragment.toList s.toList

-- Whether one of the fragments stands somewhere in `s`.
def mentionsAny (s : String) (fragments : List String) : Bool := fragments.any (mentions s)

end DemandRouting.Text
