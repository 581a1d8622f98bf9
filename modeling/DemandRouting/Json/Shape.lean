import DemandRouting.Json.Codec

namespace DemandRouting

structure Field (ρ : Type) where
  name : String
  put : Json → ρ → Option ρ
  write : ρ → Json
  required : Bool
  -- has to be given in a list even if an object may do without it
  listed : Bool

def Field.of {ρ α : Type} (name : String) (c : Codec α) (get : ρ → α) (set : α → ρ → ρ) : Field ρ :=
  ⟨name, fun j r => (c.read j).map (set · r), fun r => c.write (get r), false, false⟩

-- A field that has to be given.
def Field.needed {ρ α : Type} (name : String) (c : Codec α) (get : ρ → α) (set : α → ρ → ρ) :
    Field ρ :=
  { Field.of name c get set with required := true }

-- A field that is none where an object does not give it.
def Field.optional {ρ α : Type} (name : String) (c : Codec α) (get : ρ → Option α)
    (set : Option α → ρ → ρ) : Field ρ :=
  { Field.of name (.option c) get set with listed := true }

structure Shape (ρ : Type) where
  -- the record in which nothing was given
  blank : ρ
  fields : List (Field ρ)

namespace Shape

variable {ρ : Type}

-- Put the members into the record one after the other; `seen` are the names met so far. Unknown
-- names are passed over with their values, and a known name that comes again is refused.
def putMembers (fields : List (Field ρ)) (seen : List String) :
    List (String × Json) → ρ → Option ρ
  | [], r => if fields.all fun f => !f.required || seen.contains f.name then some r else none
  | (name, j) :: rest, r =>
    match fields.find? (·.name == name) with
    | none => putMembers fields seen rest r
    | some f =>
      if seen.contains name then none
      else (f.put j r).bind (putMembers fields (name :: seen) rest)

-- Put the items of a list into the leading fields, in declaration order.
def putItems : List (Field ρ) → List Json → ρ → Option ρ
  | fields, [], r => if fields.all fun f => !(f.required || f.listed) then some r else none
  | [], _ :: _, _ => none
  | f :: fields, j :: rest, r => (f.put j r).bind (putItems fields rest)

def read (s : Shape ρ) : Json → Option ρ
  | .object members => putMembers s.fields [] members s.blank
  | .list items => putItems s.fields items s.blank
  | _ => none

def write (s : Shape ρ) (r : ρ) : Json := .object (s.fields.map fun f => (f.name, f.write r))

def codec (s : Shape ρ) : Codec ρ := ⟨s.read, s.write⟩

end Shape
end DemandRouting
