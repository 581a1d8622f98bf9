import DemandRouting.Url.Basic

namespace DemandRouting.Url

-- Drive letters are written `C:` or `C|`.
def isDriveMark (c : Char) : Bool := c == ':' || c == '|'

def isDriveLetter (cs : List Char) : Bool :=
  match cs with
  | [c, mark] => c.isAlpha && isDriveMark mark
  | _ => false

def isNormalDrive (cs : List Char) : Bool :=
  match cs with
  | [c, ':'] => c.isAlpha
  | _ => false

-- A drive letter that fills its segment.
def startsWithDrive (cs : List Char) : Bool :=
  match cs with
  | c :: mark :: rest =>
    c.isAlpha && isDriveMark mark && !rest.head?.any fun c => !(['/', '\\', '?', '#'].contains c)
  | _ => false

def spelled (cs : List Char) : List Char := cs.map Char.toLower

def isDot (segment : List Char) : Bool := spelled segment ∈ [".".toList, "%2e".toList]

def isDotDot (segment : List Char) : Bool :=
  spelled segment ∈ ["..".toList, ".%2e".toList, "%2e.".toList, "%2e%2e".toList]

-- What follows the last slash, and what comes before it, the slash included.
def lastSegment (path : List Char) : List Char := (path.reverse.takeWhile (· != '/')).reverse

def parent (path : List Char) : List Char := (path.reverse.dropWhile (· != '/')).reverse

def endsWithSlash (path : List Char) : Bool := path.getLast? == some '/'

-- Whether the slash at the end may go: not the root, and not the one behind a drive letter.
def lastSlashCanGo (path : List Char) : Bool :=
  let before := parent path.dropLast
  !before.isEmpty && !startsWithDrive (path.drop before.length)

-- Go up from a path that ends in a slash. A drive letter is not left.
def stepUp (kind : SchemeKind) (path : List Char) : List Char :=
  let path := if endsWithSlash path && lastSlashCanGo path then path.dropLast else path
  if kind = .file ∧ isNormalDrive (lastSegment path) then path else parent path

-- A path as far as it was read, and whether a drive letter was found at its front.
structure Trail where
  path : List Char
  drive : Bool := false

-- Add a finished segment.
def Trail.add (kind : SchemeKind) (t : Trail) (segment : List Char) (slash : Bool) : Trail :=
  let closed := fun path : List Char => if endsWithSlash path then path else path ++ ['/']
  if isDotDot segment then
    let up := stepUp kind t.path
    { t with path := if slash then closed up else up }
  else if isDot segment then { t with path := closed t.path }
  else
    let drive := kind = .file ∧ t.path.length = 1 ∧ isDriveLetter segment
    let segment := if drive then segment.take 1 ++ [':'] else segment
    ⟨t.path ++ segment ++ (if slash then ['/'] else []), t.drive || drive⟩

def isBreak (c : Char) : Bool := c == '\t' || c == '\n' || c == '\r'

def isTailMark (c : Char) : Bool := c == '?' || c == '#'

def isSeparator (kind : SchemeKind) (c : Char) : Bool := c == '/' || (kind.isSpecial && c == '\\')

-- What a path is read from: a text with separators in it, up to the query or the fragment, or one
-- segment in which these are characters like others.
inductive Extent where
  | wholePath
  | oneSegment
deriving DecidableEq

def Extent.separates (e : Extent) (kind : SchemeKind) (c : Char) : Bool :=
  e == .wholePath && isSeparator kind c

def Extent.ends (e : Extent) (c : Char) : Bool := e == .wholePath && isTailMark c

def Extent.encoded (e : Extent) (kind : SchemeKind) : Char → Bool :=
  match e with
  | .wholePath => pathSet
  | .oneSegment => if kind.isSpecial then specialSegmentSet else segmentSet

-- Whether the segment goes on behind breaks.
def Extent.goesOn (e : Extent) (kind : SchemeKind) (cs : List Char) : Bool :=
  (cs.dropWhile isBreak).head?.any fun c => !e.separates kind c && !e.ends c

-- Read what is left of a segment and all segments after it. Breaks are passed over, but one that
-- parts a drive letter from the rest of its segment puts a slash there, within the segment.
def Extent.read (e : Extent) (kind : SchemeKind) :
    List Char → Trail → (segment : List Char) → Trail × List Char
  | [], t, segment => (t.add kind segment false, [])
  | c :: rest, t, segment =>
    if isBreak c then
      if kind = .file ∧ t.path.length = 1 ∧ isNormalDrive segment ∧ e.goesOn kind rest then
        e.read kind rest { t with path := t.path ++ segment.take 1 } (segment.drop 1 ++ ['/'])
      else e.read kind rest t segment
    else if e.separates kind c then e.read kind rest (t.add kind segment true) []
    else if e.ends c then (t.add kind segment false, c :: rest)
    else e.read kind rest t (segment ++ encodeChar (e.encoded kind) c)

-- A file path has one slash in front, however many were written.
def settle (kind : SchemeKind) (path : List Char) : List Char :=
  if kind = .file then '/' :: path.dropWhile (· == '/') else path

-- Continue a path that ends in a slash.
def Extent.continued (e : Extent) (kind : SchemeKind) (path cs : List Char) : Trail × List Char :=
  let (t, rest) := e.read kind cs ⟨path, false⟩ []
  ({ t with path := settle kind t.path }, rest)

def pathOf (kind : SchemeKind) (cs : List Char) : Trail × List Char :=
  Extent.wholePath.continued kind ['/'] cs

-- The path that stands after an authority. Without one a special URL has the path `/`.
def pathAfterAuthority (kind : SchemeKind) (cs : List Char) : Trail × List Char :=
  match cs.dropWhile isBreak with
  | [] => if kind.isSpecial then (⟨['/'], false⟩, []) else (⟨[], false⟩, [])
  | c :: rest =>
    if isSeparator kind c then pathOf kind rest
    else if !kind.isSpecial && isTailMark c then (⟨[], false⟩, c :: rest)
    else pathOf kind (c :: rest)

-- The path, read once more with a slash at its end.
def closedPath (kind : SchemeKind) (path : List Char) : List Char :=
  (pathOf kind ((path ++ ['/']).drop 1)).1.path

-- An empty last segment is dropped, so that the next one takes its place.
def dropEmptyLast (path : List Char) : List Char :=
  if 1 < path.length && endsWithSlash path then path.dropLast else path

-- Append one segment of arbitrary text; steps within the path are passed over.
def appendSegment (kind : SchemeKind) (path segment : List Char) : List Char :=
  if segment = ['.'] ∨ segment = ['.', '.'] then path
  else
    let base := if path.length = 1 then path else path ++ ['/']
    (Extent.oneSegment.continued kind base segment).1.path

def appendSegments (kind : SchemeKind) (path : List Char) (segments : List (List Char)) : List Char :=
  segments.foldl (appendSegment kind) (dropEmptyLast path)

end DemandRouting.Url
