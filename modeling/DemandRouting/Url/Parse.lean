import DemandRouting.Url.Path

namespace DemandRouting.Url

def isSchemeChar (c : Char) : Bool := c.isAlphanum || c == '+' || c == '-' || c == '.'

-- The scheme in lower case and what follows its colon.
def splitScheme (cs : List Char) : Option (List Char × List Char) :=
  match cs with
  | [] => none
  | c :: _ =>
    if c.isAlpha then
      match cs.dropWhile isSchemeChar with
      | ':' :: rest => some ((cs.takeWhile isSchemeChar).map Char.toLower, rest)
      | _ => none
    else none

-- Without the controls and blanks around the text.
def trimmed (cs : List Char) : List Char :=
  let edge := fun c : Char => c.toNat ≤ 0x20
  ((cs.dropWhile edge).reverse.dropWhile edge).reverse

def withoutBreaks (cs : List Char) : List Char := cs.filter (!isBreak ·)

def endsAuthority (kind : SchemeKind) (c : Char) : Bool := isTailMark c || isSeparator kind c

-- The part before the last `@` of the authority and the part after it.
def splitCredentials (kind : SchemeKind) (cs : List Char) : Option (List Char) × List Char :=
  let authority := cs.takeWhile (!endsAuthority kind ·)
  let rest := cs.dropWhile (!endsAuthority kind ·)
  let back := authority.reverse
  match back.dropWhile (· != '@') with
  | [] => (none, cs)
  | _ :: front => (some front.reverse, (back.takeWhile (· != '@')).reverse ++ rest)

def credentialsOf (cs : List Char) : Credentials :=
  ⟨encode userinfoSet (cs.takeWhile (· != ':')),
    encode userinfoSet ((cs.dropWhile (· != ':')).drop 1)⟩

-- The text of a host and what follows it; colons within brackets belong to it.
def splitHost (kind : SchemeKind) : (bracketed : Bool) → List Char → List Char × List Char
  | _, [] => ([], [])
  | bracketed, c :: rest =>
    if (c = ':' ∧ !bracketed) ∨ endsAuthority kind c then ([], c :: rest)
    else
      let bracketed := if c = '[' then true else if c = ']' then false else bracketed
      let (host, after) := splitHost kind bracketed rest
      (c :: host, after)

def bracketedHost (cs : List Char) : Except ParseError (List Char) :=
  if cs.getLast? = some ']' then
    match ipv6? (cs.drop 1).dropLast with
    | some pieces => .ok ('[' :: ipv6Chars pieces ++ [']'])
    | none => .error .invalidIpv6
  else .error .invalidIpv6

-- A host of a special scheme.
def domainHost (cs : List Char) : Except ParseError (List Char) :=
  if cs.head? = some '[' then bracketedHost cs
  else
    match (decode cs).bind asciiDomain? with
    | none => .error .invalidDomain
    | some [] => .error .emptyHost
    | some domain =>
      if endsInNumber domain then
        match ipv4? domain with
        | some n => .ok (ipv4Chars n)
        | none => .error .invalidIpv4
      else .ok domain

def opaqueForbidden (c : Char) : Bool :=
  c ∈ ['\x00', '\t', '\n', '\r', ' ', '#', '/', ':', '<', '>', '?', '@', '[', '\\', ']', '^', '|']

-- A host of any other scheme, kept as it is.
def opaqueHost (cs : List Char) : Except ParseError (List Char) :=
  if cs.head? = some '[' then bracketedHost cs
  else if cs.any opaqueForbidden then .error .invalidDomainChar
  else .ok (encode isControl cs)

-- A port, unless it is the scheme's own, and what follows it.
def splitPort (scheme cs : List Char) : Except ParseError (Option Nat × List Char) :=
  let digits := cs.takeWhile Char.isDigit
  let rest := cs.dropWhile Char.isDigit
  let port := digits.foldl (fun n c => 10 * n + (c.toNat - '0'.toNat)) 0
  let ended := match rest with
    | [] => true
    | c :: _ => c == '/' || c == '\\' || c == '?' || c == '#'
  if !ended || 65535 < port then .error .invalidPort
  else if digits.isEmpty ∨ defaultPort scheme = some port then .ok (none, rest)
  else .ok (some port, rest)

-- Set query and fragment from what follows the path.
def withTail (u : Url) (cs : List Char) : Url :=
  let cs := withoutBreaks cs
  let afterPath := cs.takeWhile (· != '#')
  let fragment := match cs.dropWhile (· != '#') with
    | _ :: f => some (encode fragmentSet f)
    | [] => none
  let query := match afterPath with
    | '?' :: q => some (encode (if u.kind.isSpecial then specialQuerySet else querySet) q)
    | _ => none
  { u with query, fragment }

-- What follows the two slashes of a scheme other than `file`.
def parseAuthority (scheme cs : List Char) : Except ParseError Url := do
  let kind := SchemeKind.of scheme
  let (userinfo, afterUser) := splitCredentials kind cs
  let credentials := credentialsOf (userinfo.getD [])
  let (hostText, afterHost) := splitHost kind false afterUser
  if hostText.isEmpty then
    -- an empty host takes neither credentials nor a port, and a special scheme needs a real one
    let bareMark := userinfo == some [] && !afterUser.isEmpty
    let named := !(credentialChars credentials).isEmpty
    if kind.isSpecial || named || bareMark || afterHost.head? == some ':' then throw .emptyHost
  let host ← if kind.isSpecial then domainHost hostText else opaqueHost hostText
  let (port, afterPort) ← match afterHost with
    | ':' :: rest => splitPort scheme rest
    | rest => pure (none, rest)
  let (path, tail) := pathAfterAuthority kind afterPort
  return withTail { scheme, credentials, host := some host, port, path := path.path } tail

-- A file URL with two slashes. A host that is missing or `localhost` is left empty, and so is one
-- before a drive letter.
def parseFileAuthority (scheme cs : List Char) : Except ParseError Url := do
  let hostText := withoutBreaks (cs.takeWhile (!endsAuthority .file ·))
  let afterHost := cs.dropWhile (!endsAuthority .file ·)
  let isPath := isDriveLetter hostText
  let host ← if isPath || hostText.isEmpty then pure [] else domainHost hostText
  if isPath || host.isEmpty || host == "localhost".toList then
    let (path, tail) := pathOf .file (if isPath then cs else afterHost)
    return withTail { scheme, host := some [], path := path.path } tail
  else
    let (path, tail) := pathAfterAuthority .file afterHost
    return withTail { scheme, host := some (if path.drive then [] else host), path := path.path } tail

-- A file URL. Breaks still stand in its text, as they matter to its path.
def parseFile (scheme cs : List Char) : Except ParseError Url :=
  let afterSlash? := fun cs : List Char =>
    match cs.dropWhile isBreak with
    | [] => none
    | c :: rest => if isSeparator .file c then some rest else none
  match afterSlash? cs, (afterSlash? cs).bind afterSlash? with
  | some _, some rest => parseFileAuthority scheme rest
  | some rest, none =>
    let (path, tail) := pathOf .file rest
    .ok (withTail { scheme, host := some [], path := path.path } tail)
  | none, _ =>
    let (path, tail) := pathOf .file cs
    .ok (withTail { scheme, host := some [], path := path.path } tail)

def parseOther (scheme cs : List Char) : Except ParseError Url :=
  match cs with
  | '/' :: '/' :: rest => parseAuthority scheme rest
  | '/' :: rest =>
    let (⟨path, _⟩, tail) := pathOf .other rest
    .ok (withTail { scheme, path, guarded := path.take 2 == ['/', '/'] } tail)
  | cs =>
    let path := encode isControl (cs.takeWhile (!isTailMark ·))
    .ok (withTail { scheme, isOpaque := true, path } (cs.dropWhile (!isTailMark ·)))

def parseChars (cs : List Char) : Except ParseError Url :=
  let cs := trimmed cs
  match splitScheme (withoutBreaks cs) with
  | none => .error .relativeWithoutBase
  | some (scheme, rest) =>
    match SchemeKind.of scheme with
    | .web => parseAuthority scheme (rest.dropWhile (isSeparator .web))
    | .file => parseFile scheme ((cs.dropWhile (· != ':')).drop 1)
    | .other => parseOther scheme rest

def parse (s : String) : Except ParseError Url := parseChars s.toList

-- A slash at the end of the path. An opaque path never begins with one.
def withFinalSlash (u : Url) : Url :=
  if endsWithSlash u.path then u
  else if !u.isOpaque then { u with path := closedPath u.kind u.path }
  else { u with path := if u.path.isEmpty then percentByte 0x2F else u.path ++ ['/'] }

-- The URL with further path segments; none for an opaque path.
def extend? (u : Url) (segments : List String) : Option Url :=
  if u.isOpaque then none
  else some { u with path := appendSegments u.kind u.path (segments.map String.toList) }

-- The URL with one more query pair.
def addPair (u : Url) (name value : String) : Url :=
  let pair := form name.toList ++ '=' :: form value.toList
  { u with query := some (match u.query with
      | none => pair
      | some [] => pair
      | some q => q ++ '&' :: pair) }

end DemandRouting.Url
