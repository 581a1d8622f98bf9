import DemandRouting.Proofs.Json.Shape
import DemandRouting.Proofs.Number.Finite

namespace DemandRouting

variable {ρ α β : Type}

namespace Json

-- Numbers are whole numbers of 64 bits, with or without a sign, or finite doubles.
inductive Proper : Json → Prop
  | null : Proper .null
  | bool (b : Bool) : Proper (.bool b)
  | int {n : Int} (hlow : -2 ^ 63 ≤ n) (hhigh : n < 2 ^ 64) : Proper (.int n)
  | float {x : Float} (h : x.isFinite = true) : Proper (.float x)
  | text (s : String) : Proper (.text s)
  | list {items : List Json} (h : ∀ j ∈ items, Proper j) : Proper (.list items)
  | object {members : List (String × Json)} (h : ∀ m ∈ members, Proper m.2) :
    Proper (.object members)
  | illegible : Proper .illegible

end Json

namespace Codec

variable {c : Codec α} {p : α → Prop}

def Sound (c : Codec α) (p : α → Prop) : Prop := ∀ j a, j.Proper → c.read j = some a → p a

theorem sound_true (c : Codec α) : c.Sound fun _ => True := fun _ _ _ _ => trivial

theorem double_sound : double.Sound fun x => x.isFinite = true := by
  intro j x hj hread
  cases hj with
  | float h =>
    obtain rfl := Option.some.inj hread
    exact h
  | int hlow hhigh =>
    obtain rfl := Option.some.inj hread
    exact Number.isFinite_doubleOfInt (by omega)
  | null | bool | text | list | object | illegible => cases hread

theorem option_sound (hc : c.Sound p) : (option c).Sound fun o => ∀ a ∈ o, p a := by
  intro j o hj hread a ha
  obtain rfl : o = some a := ha
  cases j with
  | null => cases hread
  | bool | int | float | text | list | object | illegible =>
    obtain ⟨b, hb, heq⟩ := Option.map_eq_some_iff.mp hread
    obtain rfl := Option.some.inj heq
    exact hc _ _ hj hb

theorem list_sound (hc : c.Sound p) : (list c).Sound fun as => ∀ a ∈ as, p a := by
  intro j as hj hread a ha
  cases hj with
  | list h =>
    obtain ⟨item, hitem, heq⟩ := mem_of_mapM hread ha
    exact hc item a (h item hitem) heq
  | null | bool | int | float | text | object | illegible => cases hread

end Codec

-- Putting in a value leaves the property as it is.
def Field.Keeps (f : Field ρ) (p : ρ → Prop) : Prop :=
  ∀ j r r', j.Proper → p r → f.put j r = some r' → p r'

theorem Field.keeps_of {name : String} {c : Codec α} {get : ρ → α} {set : α → ρ → ρ} {p : ρ → Prop}
    {q : α → Prop} (hc : c.Sound q) (h : ∀ a r, q a → p r → p (set a r)) :
    (Field.of name c get set).Keeps p := by
  intro j r r' hj hr hput
  obtain ⟨a, ha, rfl⟩ := Option.map_eq_some_iff.mp hput
  exact h a r (hc j a hj ha) hr

-- The property does not look at what is put in.
theorem Field.keeps_untouched {name : String} {c : Codec α} {get : ρ → α} {set : α → ρ → ρ}
    {p : ρ → Prop} (h : ∀ a r, p r → p (set a r)) : (Field.of name c get set).Keeps p :=
  keeps_of c.sound_true fun a r _ => h a r

namespace Shape

variable {s : Shape ρ} {p : ρ → Prop} {fields : List (Field ρ)}

theorem putMembers_keeps (h : ∀ f ∈ fields, f.Keeps p) {members : List (String × Json)}
    (hproper : ∀ m ∈ members, m.2.Proper) {seen : List String} {r r' : ρ} (hr : p r)
    (hput : putMembers fields seen members r = some r') : p r' := by
  induction members generalizing seen r with
  | nil =>
    simp only [putMembers] at hput
    split at hput
    · exact Option.some.inj hput ▸ hr
    · cases hput
  | cons m members ih =>
    obtain ⟨hm, hrest⟩ := List.forall_mem_cons.mp hproper
    simp only [putMembers] at hput
    split at hput
    · exact ih hrest hr hput
    · rename_i f hfind
      split at hput
      · cases hput
      · obtain ⟨q, hq, hput⟩ := Option.bind_eq_some_iff.mp hput
        exact ih hrest (h f (List.mem_of_find?_eq_some hfind) _ _ _ hm hr hq) hput

theorem putItems_keeps (h : ∀ f ∈ fields, f.Keeps p) {items : List Json}
    (hproper : ∀ j ∈ items, j.Proper) {r r' : ρ} (hr : p r)
    (hput : putItems fields items r = some r') : p r' := by
  induction items generalizing fields r with
  | nil =>
    rw [putItems] at hput
    split at hput
    · exact Option.some.inj hput ▸ hr
    · cases hput
  | cons j items ih =>
    obtain ⟨hj, hrest⟩ := List.forall_mem_cons.mp hproper
    cases fields with
    | nil => cases hput
    | cons f fields =>
      obtain ⟨hf, hfields⟩ := List.forall_mem_cons.mp h
      obtain ⟨q, hq, hput⟩ := Option.bind_eq_some_iff.mp hput
      exact ih hfields hrest (hf _ _ _ hj hr hq) hput

-- Whatever the fields keep holds of all that is read.
theorem sound (hblank : p s.blank) (h : ∀ f ∈ s.fields, f.Keeps p) : s.codec.Sound p := by
  intro j r hj hread
  cases hj with
  | object hproper => exact putMembers_keeps h hproper hblank hread
  | list hproper => exact putItems_keeps h hproper hblank hread
  | null | bool | int | float | text | illegible => cases hread

end Shape
end DemandRouting
