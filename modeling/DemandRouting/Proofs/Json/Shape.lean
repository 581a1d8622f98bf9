import DemandRouting.Json.Shape
import DemandRouting.Proofs.Lists

namespace DemandRouting

variable {ρ α β : Type}

namespace Json

theorem member?_cons_of_ne {name other : String} (h : other ≠ name) (j : Json)
    (members : List (String × Json)) :
    (object ((other, j) :: members)).member? name = (object members).member? name := by
  simp [member?, List.find?_append, h]

theorem member?_of_notMem {name : String} {members : List (String × Json)}
    (h : name ∉ members.map (·.1)) : (object members).member? name = none := by
  simp only [member?, Option.map_eq_none_iff, List.find?_eq_none, List.mem_reverse]
  intro m hm heq
  exact h (List.mem_map.mpr ⟨m, hm, by simpa using heq⟩)

theorem member?_cons_self {name : String} {members : List (String × Json)}
    (h : name ∉ members.map (·.1)) (j : Json) :
    (object ((name, j) :: members)).member? name = some j := by
  have hrest := member?_of_notMem h
  simp only [member?, Option.map_eq_none_iff] at hrest
  simp [member?, List.find?_append, hrest]

end Json

namespace Field

variable {name name' : String} {c : Codec α} {c' : Codec β} {get : ρ → α} {get' : ρ → β}
  {set : α → ρ → ρ} {set' : β → ρ → ρ}

-- Put in what the object gives for the field.
def putGiven (f : Field ρ) (v : Json) (r : ρ) : Option ρ :=
  match v.member? f.name with
  | some j => f.put j r
  | none => some r

-- It does not matter which of the two fields is put in first.
def Commutes (f g : Field ρ) : Prop :=
  ∀ j k r, (f.put j r).bind (g.put k) = (g.put k r).bind (f.put j)

theorem commutes_of (h : ∀ a b r, set' b (set a r) = set a (set' b r)) :
    Commutes (Field.of name c get set) (Field.of name' c' get' set') := by
  intro j k r
  simp only [Field.of]
  cases c.read j <;> cases c'.read k <;> simp [h]

end Field

namespace Shape

variable {s : Shape ρ} {fields : List (Field ρ)}

def inTurn (step : Field ρ → ρ → Option ρ) : List (Field ρ) → ρ → Option ρ
  | [], r => some r
  | f :: fields, r => (step f r).bind (inTurn step fields)

theorem inTurn_append (step : Field ρ → ρ → Option ρ) (front back : List (Field ρ)) (r : ρ) :
    inTurn step (front ++ back) r = (inTurn step front r).bind (inTurn step back) := by
  induction front generalizing r with
  | nil => rfl
  | cons f front ih =>
    simp only [List.cons_append, inTurn, Option.bind_assoc]
    exact congrArg _ (funext ih)

theorem inTurn_congr {step step' : Field ρ → ρ → Option ρ}
    (h : ∀ f ∈ fields, step f = step' f) : inTurn step fields = inTurn step' fields := by
  induction fields with
  | nil => rfl
  | cons f fields ih =>
    obtain ⟨hf, hrest⟩ := List.forall_mem_cons.mp h
    funext r
    simp only [inTurn, hf, ih hrest]

-- Put into a record what the fields of `r` are written as.
def restore (fields : List (Field ρ)) (r : ρ) : ρ → Option ρ :=
  inTurn (fun f => f.put (f.write r)) fields

@[simp] theorem restore_nil (r q : ρ) : restore [] r q = some q := by
  rw [restore, inTurn]

theorem restore_of {name : String} {c : Codec α} {get : ρ → α} {set : α → ρ → ρ} {p : α → Prop}
    (hc : c.Faithful p) {r : ρ} (h : p (get r)) (fields : List (Field ρ)) (q : ρ) :
    restore (.of name c get set :: fields) r q = restore fields r (set (get r) q) := by
  simp only [restore, inTurn, Field.of, hc _ h, Option.map_some, Option.bind_some]

@[simp] theorem restore_of_total {name : String} {c : Codec α} {get : ρ → α} {set : α → ρ → ρ}
    (hc : c.Total) (fields : List (Field ρ)) (r q : ρ) :
    restore (.of name c get set :: fields) r q = restore fields r (set (get r) q) :=
  restore_of hc trivial fields q

theorem putMembers_written (hnames : (fields.map (·.name)).Nodup) (r : ρ) {left : List (Field ρ)}
    (hleft : left ⊆ fields) (hnodup : (left.map (·.name)).Nodup) {seen : List String}
    (hnew : ∀ f ∈ left, f.name ∉ seen) (hall : ∀ f ∈ fields, f ∈ left ∨ f.name ∈ seen) (q : ρ) :
    putMembers fields seen (left.map fun f => (f.name, f.write r)) q = restore left r q := by
  induction left generalizing seen q with
  | nil =>
    have hseen : fields.all (fun f => !f.required || seen.contains f.name) = true := by
      simp only [List.all_eq_true, Bool.or_eq_true, List.contains_iff_mem]
      exact fun f hf => .inr ((hall f hf).resolve_left List.not_mem_nil)
    rw [List.map_nil, putMembers, if_pos hseen]
    rfl
  | cons f left ih =>
    obtain ⟨hf, hrest⟩ := List.cons_subset.mp hleft
    rw [List.map_cons, List.nodup_cons] at hnodup
    obtain ⟨hfirst, hlater⟩ := List.forall_mem_cons.mp hnew
    have hunseen : seen.contains f.name = false := by simpa using hfirst
    simp only [List.map_cons, putMembers, find?_of_nodup_keys hnames hf, hunseen,
      Bool.false_eq_true, ite_false]
    refine congrArg _ (funext fun q => ih hrest hnodup.2 ?_ ?_ q)
    · intro g hg hmem
      rcases List.mem_cons.mp hmem with heq | hmem
      · exact hnodup.1 (List.mem_map.mpr ⟨g, hg, heq⟩)
      · exact hlater g hg hmem
    · intro g hg
      rcases hall g hg with hmem | hmem
      · rcases List.mem_cons.mp hmem with rfl | hmem
        · exact .inr List.mem_cons_self
        · exact .inl hmem
      · exact .inr (List.mem_cons_of_mem _ hmem)

theorem read_write (hnames : (s.fields.map (·.name)).Nodup) (r : ρ) :
    s.read (s.write r) = restore s.fields r s.blank :=
  putMembers_written hnames r (List.Subset.refl _) hnames (fun _ _ => List.not_mem_nil)
    (fun _ hf => .inl hf) s.blank

theorem faithful {p : ρ → Prop} (hnames : (s.fields.map (·.name)).Nodup)
    (h : ∀ r, p r → restore s.fields r s.blank = some r) : s.codec.Faithful p :=
  fun r hr => (read_write hnames r).trans (h r hr)

theorem read_write_of_faithful {p : ρ → Prop} (h : s.codec.Faithful p) {r : ρ} (hr : p r) :
    s.read (s.write r) = some r := h r hr

theorem total (hnames : (s.fields.map (·.name)).Nodup)
    (h : ∀ r, restore s.fields r s.blank = some r) : s.codec.Total :=
  faithful hnames fun r _ => h r

theorem present (s : Shape ρ) (p : ρ → Prop) : s.codec.Present p := fun _ _ => nofun

@[simp] theorem shown (s : Shape ρ) : s.codec.Shown := s.present _

-- Put into a record what an object gives.
def fill (fields : List (Field ρ)) (v : Json) : ρ → Option ρ := inTurn (·.putGiven v) fields

theorem fill_empty (fields : List (Field ρ)) (r : ρ) : fill fields (.object []) r = some r := by
  induction fields with
  | nil => rfl
  | cons f fields ih => exact ih

-- A field may be put in before others or behind them.
theorem put_bind_fill {f : Field ρ} (hcomm : ∀ g ∈ fields, g.Commutes f) (v j : Json) (r : ρ) :
    (f.put j r).bind (fill fields v) = (fill fields v r).bind (f.put j) := by
  induction fields generalizing r with
  | nil => exact Option.bind_fun_some _
  | cons g fields ih =>
    obtain ⟨hg, hrest⟩ := List.forall_mem_cons.mp hcomm
    have hswap : (f.put j r).bind (g.putGiven v) = (g.putGiven v r).bind (f.put j) := by
      unfold Field.putGiven
      cases v.member? g.name with
      | some k => exact (hg k j r).symm
      | none => simp
    calc (f.put j r).bind (fill (g :: fields) v)
        = ((f.put j r).bind (g.putGiven v)).bind (fill fields v) := (Option.bind_assoc _ _ _).symm
      _ = (g.putGiven v r).bind fun r => (f.put j r).bind (fill fields v) := by
          rw [hswap, Option.bind_assoc]
      _ = (g.putGiven v r).bind fun r => (fill fields v r).bind (f.put j) :=
          congrArg _ (funext (ih hrest))
      _ = (fill (g :: fields) v r).bind (f.put j) := (Option.bind_assoc _ _ _).symm

-- A member with a name that no field has is passed over.
theorem fill_cons_of_unknown {name : String} (h : ∀ f ∈ fields, name ≠ f.name) (j : Json)
    (members : List (String × Json)) :
    fill fields (.object ((name, j) :: members)) = fill fields (.object members) := by
  apply inTurn_congr
  intro f hf
  funext r
  simp only [Field.putGiven, Json.member?_cons_of_ne (h f hf)]

-- A member may be put in ahead of the others, wherever its field stands.
theorem fill_cons_of_known (hnames : (fields.map (·.name)).Nodup)
    (hcomm : fields.Pairwise Field.Commutes) {f : Field ρ} (hf : f ∈ fields) (j : Json)
    {members : List (String × Json)} (hnew : f.name ∉ members.map (·.1)) (r : ρ) :
    fill fields (.object ((f.name, j) :: members)) r =
      (f.put j r).bind (fill fields (.object members)) := by
  obtain ⟨front, back, rfl⟩ := List.append_of_mem hf
  rw [List.map_append, List.map_cons, List.nodup_append, List.nodup_cons] at hnames
  obtain ⟨-, ⟨hback, -⟩, hfront⟩ := hnames
  have hfront : ∀ g ∈ front, f.name ≠ g.name := fun g hg heq =>
    hfront g.name (List.mem_map_of_mem hg) f.name List.mem_cons_self heq.symm
  have hback : ∀ g ∈ back, f.name ≠ g.name := fun g hg heq =>
    hback (heq ▸ List.mem_map_of_mem hg)
  have hcommutes : ∀ g ∈ front, g.Commutes f := fun g hg =>
    (List.pairwise_append.mp hcomm).2.2 g hg f List.mem_cons_self
  have hown : f.putGiven (.object ((f.name, j) :: members)) = f.put j := by
    funext r
    simp only [Field.putGiven, Json.member?_cons_self hnew]
  have hrest : f.putGiven (.object members) = some := by
    funext r
    simp only [Field.putGiven, Json.member?_of_notMem hnew]
  have happend : ∀ v r, fill (front ++ f :: back) v r =
      (fill front v r).bind fun r => (f.putGiven v r).bind (fill back v) :=
    fun v => inTurn_append _ front (f :: back)
  calc fill (front ++ f :: back) (.object ((f.name, j) :: members)) r
      = (fill front (.object members) r).bind fun r =>
          (f.put j r).bind (fill back (.object members)) := by
        rw [happend, fill_cons_of_unknown hfront, fill_cons_of_unknown hback, hown]
    _ = ((f.put j r).bind (fill front (.object members))).bind (fill back (.object members)) := by
        rw [put_bind_fill hcommutes, Option.bind_assoc]
    _ = (f.put j r).bind fun r =>
          (fill front (.object members) r).bind (fill back (.object members)) :=
        Option.bind_assoc _ _ _
    _ = (f.put j r).bind (fill (front ++ f :: back) (.object members)) :=
        congrArg _ (funext fun r => by rw [happend, hrest]; rfl)

theorem putMembers_eq_fill (hnames : (fields.map (·.name)).Nodup)
    (hcomm : fields.Pairwise Field.Commutes) (hoptional : ∀ f ∈ fields, f.required = false)
    {members : List (String × Json)} {seen : List String}
    (honce : ∀ f ∈ fields, (members.map (·.1)).count f.name ≤ 1)
    (hseen : ∀ name ∈ seen, name ∉ members.map (·.1)) (r : ρ) :
    putMembers fields seen members r = fill fields (.object members) r := by
  induction members generalizing seen r with
  | nil =>
    have hall : fields.all (fun f => !f.required || seen.contains f.name) = true := by
      simp only [List.all_eq_true, Bool.or_eq_true, Bool.not_eq_true']
      exact fun f hf => .inl (hoptional f hf)
    rw [putMembers, if_pos hall, fill_empty]
  | cons m members ih =>
    obtain ⟨name, j⟩ := m
    rw [List.map_cons] at honce hseen
    have honce' : ∀ f ∈ fields, (members.map (·.1)).count f.name ≤ 1 :=
      fun f hf => Nat.le_trans List.count_le_count_cons (honce f hf)
    have hseen' : ∀ n ∈ seen, n ∉ members.map (·.1) :=
      fun n hn hmem => hseen n hn (List.mem_cons_of_mem _ hmem)
    cases hfind : fields.find? (·.name == name) with
    | none =>
      have hne : ∀ f ∈ fields, name ≠ f.name := fun f hf heq =>
        List.find?_eq_none.mp hfind f hf (by simp [heq])
      simp only [putMembers, hfind]
      rw [ih honce' hseen', fill_cons_of_unknown hne]
    | some f =>
      have hf := List.mem_of_find?_eq_some hfind
      obtain rfl : f.name = name := by simpa using List.find?_some hfind
      have hunseen : seen.contains f.name = false := by
        rw [← Bool.not_eq_true, List.contains_iff_mem]
        exact fun hmem => hseen f.name hmem List.mem_cons_self
      have hnew : f.name ∉ members.map (·.1) := by
        have hcount := honce f hf
        rw [List.count_cons_self] at hcount
        exact List.count_eq_zero.mp (by omega)
      simp only [putMembers, hfind, hunseen, Bool.false_eq_true, ite_false]
      rw [fill_cons_of_known hnames hcomm hf j hnew]
      exact congrArg _ (funext (ih honce' (List.forall_mem_cons.mpr ⟨hnew, hseen'⟩)))

-- A record of which nothing is required, and whose fields can be put in in any order.
structure Free (s : Shape ρ) : Prop where
  names : (s.fields.map (·.name)).Nodup
  commute : s.fields.Pairwise Field.Commutes
  optional : ∀ f ∈ s.fields, f.required = false

theorem read_object (h : s.Free) {members : List (String × Json)}
    (honce : ∀ f ∈ s.fields, (members.map (·.1)).count f.name ≤ 1) :
    s.read (.object members) = fill s.fields (.object members) s.blank :=
  putMembers_eq_fill h.names h.commute h.optional honce (fun _ hn => absurd hn List.not_mem_nil)
    s.blank

end Shape
end DemandRouting
