import DemandRouting.Number.Shortest

namespace DemandRouting

-- Whole numbers and doubles are kept apart, and members in written order.
inductive Json where
  | null
  | bool (b : Bool)
  | int (n : Int)
  | float (x : Float)
  | text (s : String)
  | list (items : List Json)
  | object (members : List (String × Json))
  -- Grammatical, but standing for nothing: a text with an unpaired surrogate, an object keyed by
  -- one, or a number beyond the doubles. It may be passed over and never be used.
  | illegible
deriving Inhabited

namespace Json

-- Absent values are written as `null`.
def optional {α : Type} (write : α → Json) : Option α → Json
  | none => .null
  | some a => write a

def ofNat (n : Nat) : Json := .int n

-- A double as a number; there is none for infinities and NaN.
def ofFloat (x : Float) : Json := if x.isFinite then .float x else .null

def ofTexts (ss : List String) : Json := .list (ss.map .text)

-- The value of a member, the last one when the name is repeated.
def member? (j : Json) (name : String) : Option Json :=
  match j with
  | .object ms => (ms.reverse.find? fun m => m.1 == name).map (·.2)
  | _ => none

end Json
end DemandRouting
