namespace DemandRouting

-- Kept in the order of the keys, so that tables with the same entries are equal.
structure Table (α : Type) where
  entries : List (String × α)
  sorted : entries.Pairwise (fun a b => a.1 < b.1)

namespace Table

variable {α : Type}

theorem ext_entries {s t : Table α} (h : s.entries = t.entries) : s = t := by
  cases s
  cases t
  simp only [Table.mk.injEq]
  exact h

instance [DecidableEq α] : DecidableEq (Table α) := fun s t =>
  if h : s.entries = t.entries then .isTrue (ext_entries h)
  else .isFalse fun hs => h (hs ▸ rfl)

def empty : Table α := ⟨[], .nil⟩

instance : Inhabited (Table α) := ⟨empty⟩

-- Put an entry at its place; an entry with the same key gives way to it.
def place (k : String) (a : α) : List (String × α) → List (String × α)
  | [] => [(k, a)]
  | (k', a') :: rest =>
    if k < k' then (k, a) :: (k', a') :: rest
    else if k' < k then (k', a') :: place k a rest
    else (k, a) :: rest

theorem mem_place {k : String} {a : α} {e : String × α} {es : List (String × α)}
    (h : e ∈ place k a es) : e = (k, a) ∨ e ∈ es := by
  induction es with
  | nil => simpa [place] using h
  | cons f rest ih =>
    simp only [place] at h
    split at h
    · simpa using h
    · split at h
      · rcases List.mem_cons.1 h with h | h
        · exact .inr (by simp [h])
        · rcases ih h with h | h
          · exact .inl h
          · exact .inr (by simp [h])
      · rcases List.mem_cons.1 h with h | h
        · exact .inl h
        · exact .inr (by simp [h])

theorem pairwise_place {k : String} {a : α} {es : List (String × α)}
    (h : es.Pairwise (fun a b => a.1 < b.1)) :
    (place k a es).Pairwise (fun a b => a.1 < b.1) := by
  induction es with
  | nil => simp [place]
  | cons f rest ih =>
    have hrest := List.pairwise_cons.1 h
    simp only [place]
    split
    · next hlt =>
      refine List.pairwise_cons.2 ⟨fun e he => ?_, h⟩
      rcases List.mem_cons.1 he with rfl | he
      · exact hlt
      · exact String.lt_trans hlt (hrest.1 e he)
    · next hge =>
      split
      · next hlt =>
        refine List.pairwise_cons.2 ⟨fun e he => ?_, ih hrest.2⟩
        rcases mem_place he with rfl | he
        · exact hlt
        · exact hrest.1 e he
      · next hle =>
        -- neither key is below the other, so they are the same
        have hk : k = f.1 := String.le_antisymm (String.not_lt.1 hle) (String.not_lt.1 hge)
        exact List.pairwise_cons.2 ⟨fun e he => by rw [hk]; exact hrest.1 e he, hrest.2⟩

def insert (t : Table α) (k : String) (a : α) : Table α :=
  ⟨place k a t.entries, pairwise_place t.sorted⟩

-- Later entries replace earlier ones with the same key.
def ofList (es : List (String × α)) : Table α := es.foldl (fun t e => t.insert e.1 e.2) empty

theorem place_above {k : String} {a : α} {es : List (String × α)} (h : ∀ e ∈ es, e.1 < k) :
    place k a es = es ++ [(k, a)] := by
  induction es with
  | nil => rfl
  | cons e es ih =>
    have he : e.1 < k := h e (by simp)
    have hrest : place k a es = es ++ [(k, a)] := ih fun f hf => h f (by simp [hf])
    simp only [place, if_neg (String.lt_asymm he), if_pos he, hrest, List.cons_append]

-- Entries in order come behind those that are there.
theorem entries_foldl_insert {es : List (String × α)} {t : Table α}
    (h : (t.entries ++ es).Pairwise fun a b => a.1 < b.1) :
    (es.foldl (fun t e => t.insert e.1 e.2) t).entries = t.entries ++ es := by
  induction es generalizing t with
  | nil => simp
  | cons e es ih =>
    have hplace : (t.insert e.1 e.2).entries = t.entries ++ [e] :=
      place_above fun f hf => (List.pairwise_append.1 h).2.2 f hf e (by simp)
    rw [List.foldl_cons, ih (by rw [hplace]; simpa using h), hplace]
    simp

theorem ofList_entries (t : Table α) : ofList t.entries = t :=
  ext_entries (entries_foldl_insert t.sorted)

def get? (t : Table α) (k : String) : Option α := (t.entries.find? (·.1 == k)).map (·.2)

def contains (t : Table α) (k : String) : Bool := t.entries.any (·.1 == k)

def keys (t : Table α) : List String := t.entries.map (·.1)

-- Add an entry unless its key is taken.
def insertNew (t : Table α) (k : String) (a : α) : Table α :=
  if t.contains k then t else t.insert k a

@[simp] theorem get?_empty (k : String) : (empty : Table α).get? k = none := rfl

theorem contains_eq (t : Table α) (k : String) : t.contains k = (t.get? k).isSome := by
  rw [get?, Option.isSome_map, List.isSome_find?, contains]

theorem mem_keys_iff {t : Table α} {k : String} : k ∈ t.keys ↔ t.contains k = true := by
  simp [keys, contains]

-- What is put in is found under its key, and nothing else changes.
theorem find?_place (k k' : String) (a : α) (es : List (String × α)) :
    ((place k a es).find? (·.1 == k')).map (·.2) =
      if k = k' then some a else (es.find? (·.1 == k')).map (·.2) := by
  induction es with
  | nil => by_cases hk : k = k' <;> simp [place, hk]
  | cons e es ih =>
    simp only [place]
    split
    · by_cases hk : k = k' <;> simp [hk]
    · split
      · next hlt =>
        by_cases he : e.1 = k'
        · have hother : k ≠ k' := fun heq => String.lt_irrefl k (by rwa [he, ← heq] at hlt)
          simp [he, hother]
        · simp [he, ih]
      · next hle hge =>
        have hsame : k = e.1 := String.le_antisymm (String.not_lt.1 hge) (String.not_lt.1 hle)
        by_cases hk : k = k' <;> simp [hk, hsame ▸ hk]

@[simp] theorem get?_insert (t : Table α) (k k' : String) (a : α) :
    (t.insert k a).get? k' = if k = k' then some a else t.get? k' :=
  find?_place k k' a t.entries

-- An entry that is there already stays.
@[simp] theorem get?_insertNew (t : Table α) (k k' : String) (a : α) :
    (t.insertNew k a).get? k' = (t.get? k').or (if k = k' then some a else none) := by
  unfold insertNew
  rw [contains_eq]
  cases hk : t.get? k with
  | none => by_cases heq : k = k' <;> simp_all
  | some b => by_cases heq : k = k' <;> simp_all

end Table
end DemandRouting
