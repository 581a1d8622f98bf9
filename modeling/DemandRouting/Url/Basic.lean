import DemandRouting.Url.Address

namespace DemandRouting.Url

inductive ParseError where
  | relativeWithoutBase
  | emptyHost
  | invalidPort
  | invalidIpv4
  | invalidIpv6
  | invalidDomain
  | invalidDomainChar
deriving DecidableEq, Repr

def ParseError.message : ParseError → String
  | .relativeWithoutBase => "relative URL without a base"
  | .emptyHost => "empty host"
  | .invalidPort => "invalid port number"
  | .invalidIpv4 => "invalid IPv4 address"
  | .invalidIpv6 => "invalid IPv6 address"
  | .invalidDomain => "invalid international domain name"
  | .invalidDomainChar => "invalid domain character"

-- Web schemes are special: they have a host, backslashes separate like slashes, and the path is
-- never empty. Files are special and may lack a host.
inductive SchemeKind where
  | web
  | file
  | other
deriving DecidableEq, Repr

def SchemeKind.of (scheme : List Char) : SchemeKind :=
  if scheme = "file".toList then .file
  else if ["http", "https", "ws", "wss", "ftp"].any (·.toList == scheme) then .web
  else .other

def SchemeKind.isSpecial (k : SchemeKind) : Bool := k != .other

def defaultPort (scheme : List Char) : Option Nat :=
  if scheme = "http".toList ∨ scheme = "ws".toList then some 80
  else if scheme = "https".toList ∨ scheme = "wss".toList then some 443
  else if scheme = "ftp".toList then some 21
  else none

structure Credentials where
  username : List Char := []
  password : List Char := []
deriving DecidableEq, Repr

end Url

structure Url where
  scheme : List Char
  credentials : Url.Credentials := {}
  -- the text of the host; `none` where the URL has no authority
  host : Option (List Char) := none
  port : Option Nat := none
  -- an opaque path is no hierarchy and cannot be extended
  isOpaque : Bool := false
  path : List Char := []
  -- `/.` stands before a path whose first two slashes would else begin an authority
  guarded : Bool := false
  query : Option (List Char) := none
  fragment : Option (List Char) := none
deriving DecidableEq, Repr

namespace Url

def kind (u : Url) : SchemeKind := .of u.scheme

def credentialChars (c : Credentials) : List Char :=
  if c.username.isEmpty && c.password.isEmpty then []
  else
    c.username ++ (if c.password.isEmpty then [] else ':' :: c.password) ++ ['@']

def toChars (u : Url) : List Char :=
  let authority := match u.host with
    | some host =>
      '/' :: '/' :: credentialChars u.credentials ++ host ++
        (match u.port with
          | some p => ':' :: decimalChars p
          | none => [])
    | none => if u.guarded then ['/', '.'] else []
  u.scheme ++ ':' :: authority ++ u.path ++
    (match u.query with
      | some q => '?' :: q
      | none => []) ++
    (match u.fragment with
      | some f => '#' :: f
      | none => [])

def toText (u : Url) : String := String.ofList u.toChars

end Url
end DemandRouting
