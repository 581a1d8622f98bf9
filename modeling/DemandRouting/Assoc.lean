namespace DemandRouting

-- A finite map for keys that can only be told apart.
structure Assoc (κ α : Type) where
  entries : List (κ × α) := []

namespace Assoc

variable {κ α : Type} [DecidableEq κ]

instance : Inhabited (Assoc κ α) := ⟨{}⟩

def find? (k : κ) : List (κ × α) → Option α
  | [] => none
  | e :: rest => if e.1 = k then some e.2 else find? k rest

def replace (k : κ) (a : α) : List (κ × α) → List (κ × α)
  | [] => [(k, a)]
  | e :: rest => if e.1 = k then (k, a) :: rest else e :: replace k a rest

def get? (m : Assoc κ α) (k : κ) : Option α := find? k m.entries

def getD (m : Assoc κ α) (k : κ) (a : α) : α := (m.get? k).getD a

def set (m : Assoc κ α) (k : κ) (a : α) : Assoc κ α := ⟨replace k a m.entries⟩

theorem find?_replace (k k' : κ) (a : α) (es : List (κ × α)) :
    find? k' (replace k a es) = if k = k' then some a else find? k' es := by
  induction es with
  | nil => simp [replace, find?]
  | cons e rest ih =>
    by_cases h : e.1 = k
    · -- the entry is replaced where it stands
      by_cases hk : k = k' <;> simp_all [replace, find?]
    · by_cases hk : k = k' <;> by_cases he : e.1 = k' <;> simp_all [replace, find?]

@[simp] theorem get?_set (m : Assoc κ α) (k k' : κ) (a : α) :
    (m.set k a).get? k' = if k = k' then some a else m.get? k' :=
  find?_replace k k' a m.entries

@[simp] theorem getD_set (m : Assoc κ α) (k k' : κ) (a d : α) :
    (m.set k a).getD k' d = if k = k' then a else m.getD k' d := by
  rw [getD, get?_set]
  split <;> rfl

-- A key that is new stands behind the others.
theorem keys_replace (k : κ) (a : α) (es : List (κ × α)) :
    (replace k a es).map (·.1) =
      if k ∈ es.map (·.1) then es.map (·.1) else es.map (·.1) ++ [k] := by
  induction es with
  | nil => simp [replace]
  | cons e rest ih =>
    by_cases h : e.1 = k
    · simp [replace, h]
    · have hother : ¬ k = e.1 := fun heq => h heq.symm
      by_cases hmem : k ∈ rest.map (·.1)
      · rw [if_pos hmem] at ih
        simp [replace, h, ih, hmem]
      · rw [if_neg hmem] at ih
        simp only [replace, if_neg h, List.map_cons, ih, List.mem_cons, hother, hmem, or_self,
          ite_false, List.cons_append]

-- With keys that are all different, every entry is the one that a look-up finds.
theorem find?_of_mem {es : List (κ × α)} (hnodup : (es.map (·.1)).Nodup) {e : κ × α}
    (he : e ∈ es) : find? e.1 es = some e.2 := by
  induction es with
  | nil => cases he
  | cons first rest ih =>
    obtain ⟨hnew, hrest⟩ := List.nodup_cons.mp hnodup
    rcases List.mem_cons.mp he with rfl | he
    · simp only [find?, ite_true]
    · have hother : first.1 ≠ e.1 := fun heq =>
        hnew (List.mem_map.mpr ⟨e, he, heq.symm⟩)
      rw [find?, if_neg hother]
      exact ih hrest he

end Assoc
end DemandRouting
