import DemandRouting.Proofs.Json.Shape

namespace DemandRouting

variable {ρ α : Type}

namespace Json

-- What an object gives under a name is such a value, if it gives anything there.
def Gives (v : Json) (name : String) (kind : Json → Prop) : Prop :=
  ∀ j, v.member? name = some j → kind j

def IsBool (j : Json) : Prop := ∃ b, j = .bool b

def IsText (j : Json) : Prop := ∃ s, j = .text s

def IsWord (j : Json) : Prop := ∃ n : Int, (0 ≤ n ∧ n < 2 ^ 64) ∧ j = .int n

def IsNumber (j : Json) : Prop := (∃ n, j = .int n) ∨ ∃ x, j = .float x

def IsListOf (kind : Json → Prop) (j : Json) : Prop :=
  ∃ items, j = .list items ∧ ∀ i ∈ items, kind i

def IsTableOf (kind : Json → Prop) (j : Json) : Prop :=
  ∃ members, j = .object members ∧ ∀ m ∈ members, kind m.2

def IsNullOr (kind : Json → Prop) (j : Json) : Prop := j = .null ∨ kind j

-- An object that gives no name of the list twice, and under each of them such a value, or nothing.
-- Under other names it may give anything.
def Conforms (kinds : List (String × (Json → Prop))) (v : Json) : Prop :=
  ∃ members, v = .object members ∧
    ∀ k ∈ kinds, (members.map (·.1)).count k.1 ≤ 1 ∧ v.Gives k.1 k.2

def valueOr (v : Json) (name : String) (c : Codec α) (standard : α) : α :=
  match v.member? name with
  | some j => (c.read j).getD standard
  | none => standard

-- The part of an object under a name; a missing part gives nothing.
def part (v : Json) (name : String) : Json := (v.member? name).getD (.object [])

theorem Conforms.gives {kinds : List (String × (Json → Prop))} {v : Json} (h : v.Conforms kinds) :
    ∀ k ∈ kinds, v.Gives k.1 k.2 := by
  obtain ⟨members, rfl, hkinds⟩ := h
  exact fun k hk => (hkinds k hk).2

end Json

open Json

namespace Codec

variable {c : Codec α} {kind : Json → Prop}

def Accepts (c : Codec α) (kind : Json → Prop) : Prop := ∀ j, kind j → (c.read j).isSome = true

theorem bool_accepts : bool.Accepts IsBool := by
  rintro _ ⟨b, rfl⟩
  rfl

theorem text_accepts : text.Accepts IsText := by
  rintro _ ⟨s, rfl⟩
  rfl

theorem word64_accepts : word64.Accepts IsWord := by
  rintro _ ⟨n, hn, rfl⟩
  simp only [word64, ranged, if_pos hn, Option.isSome_some]

theorem double_accepts : double.Accepts IsNumber := by
  rintro _ (⟨n, rfl⟩ | ⟨x, rfl⟩) <;> rfl

theorem list_accepts (hc : c.Accepts kind) : (list c).Accepts (IsListOf kind) := by
  rintro _ ⟨items, rfl, hitems⟩
  exact isSome_mapM fun i hi => hc i (hitems i hi)

theorem table_accepts (hc : c.Accepts kind) : (table c).Accepts (IsTableOf kind) := by
  rintro _ ⟨members, rfl, hmembers⟩
  simp only [table, Option.isSome_map]
  exact isSome_mapM fun m hm => by simpa using hc m.2 (hmembers m hm)

theorem option_accepts (hc : c.Accepts kind) : (option c).Accepts (IsNullOr kind) := by
  rintro j (rfl | hj)
  · rfl
  · cases j with
    | null => rfl
    | bool | int | float | text | list | object | illegible =>
      simpa only [option, Option.isSome_map] using hc _ hj

end Codec

-- A given value takes the place of the one that is there.
theorem Field.putGiven_of {name : String} {c : Codec α} {get : ρ → α} {set : α → ρ → ρ}
    {kind : Json → Prop} {v : Json} (hc : c.Accepts kind) (hgiven : v.Gives name kind)
    (hset : ∀ r, set (get r) r = r) (r : ρ) :
    (Field.of name c get set).putGiven v r = some (set (v.valueOr name c (get r)) r) := by
  simp only [putGiven, Json.valueOr, Field.of]
  cases hmember : v.member? name with
  | none => simp only [hset]
  | some j =>
    obtain ⟨a, ha⟩ := Option.isSome_iff_exists.mp (hc j (hgiven j hmember))
    simp only [ha, Option.map_some, Option.getD_some]

namespace Shape

variable {s : Shape ρ} {kinds : List (String × (Json → Prop))} {v : Json}

-- An object that conforms is read field by field.
theorem read_of_conforms (hfree : s.Free) (hnames : s.fields.map (·.name) = kinds.map (·.1))
    (h : v.Conforms kinds) : s.read v = fill s.fields v s.blank := by
  obtain ⟨members, rfl, hkinds⟩ := h
  apply read_object hfree
  intro f hf
  obtain ⟨k, hk, hname⟩ := List.mem_map.mp (hnames ▸ List.mem_map_of_mem hf)
  exact hname ▸ (hkinds k hk).1

theorem accepts_of_read {overlay : Json → ρ}
    (hread : ∀ j, Conforms kinds j → s.read j = some (overlay j)) :
    s.codec.Accepts (Conforms kinds) := fun j hj => by
  simp only [codec, hread j hj, Option.isSome_some]

-- A part is read on its own, and a missing one keeps what stands there.
theorem valueOr_part {overlay : Json → ρ} {name : String} {standard : ρ}
    (hread : ∀ j, Conforms kinds j → s.read j = some (overlay j))
    (hgiven : v.Gives name (Conforms kinds)) (hmissing : overlay (.object []) = standard) :
    v.valueOr name s.codec standard = overlay (v.part name) := by
  unfold valueOr part
  cases hmember : v.member? name with
  | none => exact hmissing.symm
  | some j =>
    simp only [codec, hread j (hgiven j hmember), Option.getD_some]

end Shape
end DemandRouting
