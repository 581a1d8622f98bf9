import DemandRouting.Json.Value

namespace DemandRouting.Json

def hexChar (n : Nat) : Char :=
  if n < 10 then Char.ofNat ('0'.toNat + n) else Char.ofNat ('a'.toNat + (n - 10))

-- Quotes, backslashes and control characters are escaped, everything else stands for itself.
def escape (c : Char) : List Char :=
  if c = '"' then ['\\', '"']
  else if c = '\\' then ['\\', '\\']
  else if c = '\x08' then ['\\', 'b']
  else if c = '\x0c' then ['\\', 'f']
  else if c = '\n' then ['\\', 'n']
  else if c = '\r' then ['\\', 'r']
  else if c = '\t' then ['\\', 't']
  else if c.toNat < 0x20 then ['\\', 'u', '0', '0', hexChar (c.toNat / 16), hexChar (c.toNat % 16)]
  else [c]

def quote (s : String) : String :=
  String.ofList ('"' :: s.toList.flatMap escape ++ ['"'])

def atom : Json → String
  | .bool true => "true"
  | .bool false => "false"
  | .int n => if n < 0 then "-" ++ toString n.natAbs else toString n.natAbs
  | .float x => String.ofList (Number.jsonText x)
  | .text s => quote s
  | _ => "null"

mutual

def compact : Json → String
  | .list [] => "[]"
  | .list (v :: vs) => "[" ++ compact v ++ compactItems vs ++ "]"
  | .object [] => "\x7b\x7d"
  | .object ((k, v) :: ms) => "\x7b" ++ quote k ++ ":" ++ compact v ++ compactMembers ms ++ "\x7d"
  | v => atom v

def compactItems : List Json → String
  | [] => ""
  | v :: vs => "," ++ compact v ++ compactItems vs

def compactMembers : List (String × Json) → String
  | [] => ""
  | (k, v) :: ms => "," ++ quote k ++ ":" ++ compact v ++ compactMembers ms

end

def newline (level : Nat) : String := String.ofList ('\n' :: List.replicate (2 * level) ' ')

mutual

def indented (level : Nat) : Json → String
  | .list [] => "[]"
  | .list (v :: vs) =>
    "[" ++ newline (level + 1) ++ indented (level + 1) v ++ indentedItems (level + 1) vs ++
      newline level ++ "]"
  | .object [] => "\x7b\x7d"
  | .object ((k, v) :: ms) =>
    "\x7b" ++ newline (level + 1) ++ quote k ++ ": " ++ indented (level + 1) v ++
      indentedMembers (level + 1) ms ++ newline level ++ "\x7d"
  | v => atom v

def indentedItems (level : Nat) : List Json → String
  | [] => ""
  | v :: vs => "," ++ newline level ++ indented level v ++ indentedItems level vs

def indentedMembers (level : Nat) : List (String × Json) → String
  | [] => ""
  | (k, v) :: ms =>
    "," ++ newline level ++ quote k ++ ": " ++ indented level v ++ indentedMembers level ms

end

-- The whole value over several lines.
def pretty (v : Json) : String := indented 0 v

end DemandRouting.Json
