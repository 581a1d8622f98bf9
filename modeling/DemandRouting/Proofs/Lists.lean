import Mathlib.Data.List.Induction
import Mathlib.Data.List.Nodup

namespace DemandRouting

variable {α β κ : Type}

-- With keys that are all different, an element is found by its key.
theorem find?_of_nodup_keys [BEq κ] [LawfulBEq κ] {key : α → κ} {as : List α}
    (h : (as.map key).Nodup) {a : α} (ha : a ∈ as) : as.find? (key · == key a) = some a := by
  induction as with
  | nil => cases ha
  | cons first as ih =>
    rw [List.map_cons, List.nodup_cons] at h
    rcases List.mem_cons.mp ha with rfl | ha
    · exact List.find?_cons_of_pos (BEq.rfl)
    · have hother : key first ≠ key a :=
        fun heq => h.1 (List.mem_map.mpr ⟨a, ha, heq.symm⟩)
      rw [List.find?_cons_of_neg (by simpa using hother)]
      exact ih h.2 ha

-- With keys that are all different, leaving out a key leaves out one element.
theorem filter_key_ne [DecidableEq κ] (key : α → κ) {before after : List α} {a : α}
    (h : ((before ++ a :: after).map key).Nodup) :
    (before ++ a :: after).filter (key · ≠ key a) = before ++ after := by
  rw [List.map_append, List.map_cons, List.nodup_middle, List.nodup_cons, List.mem_append,
    not_or] at h
  have hothers : ∀ {as : List α}, key a ∉ as.map key → as.filter (key · ≠ key a) = as := by
    intro as hout
    rw [List.filter_eq_self]
    intro c hc
    rw [decide_eq_true_eq]
    exact fun heq => hout (List.mem_map.mpr ⟨c, hc, heq⟩)
  rw [List.filter_append, List.filter_cons_of_neg (by simp), hothers h.1.1, hothers h.1.2]

theorem eraseDups_concat [DecidableEq α] (as : List α) (a : α) :
    (as ++ [a]).eraseDups = if a ∈ as.eraseDups then as.eraseDups else as.eraseDups ++ [a] := by
  rw [List.eraseDups_append]
  by_cases h : a ∈ as
  · simp [h, List.removeAll]
  · simp [h, List.removeAll, List.eraseDups_cons]

theorem nodup_eraseDups [DecidableEq α] (as : List α) : as.eraseDups.Nodup := by
  induction as using List.reverseRecOn with
  | nil => exact .nil
  | append_singleton as a ih =>
    rw [eraseDups_concat]
    split
    · exact ih
    · rename_i hnew
      rw [List.nodup_append_comm]
      exact ih.cons hnew

theorem contains_congr [BEq α] [LawfulBEq α] {as bs : List α} (h : ∀ a, a ∈ as ↔ a ∈ bs) (a : α) :
    as.contains a = bs.contains a := by
  rw [Bool.eq_iff_iff, List.contains_iff_mem, List.contains_iff_mem]
  exact h a

-- What holds at first and is kept by every step holds when all steps have succeeded.
theorem foldlM_induction {P : List α → β → Prop} {step : β → α → Option β} {first : β}
    (hfirst : P [] first)
    (hstep : ∀ (as : List α) (a : α) (b b' : β), P as b → step b a = some b' → P (as ++ [a]) b')
    {as : List α} {b : β} (h : as.foldlM step first = some b) : P as b := by
  induction as using List.reverseRecOn generalizing b with
  | nil =>
    obtain rfl := Option.some_inj.mp h
    exact hfirst
  | append_singleton as a ih =>
    simp only [List.foldlM_append, List.foldlM_cons, List.foldlM_nil, bind_pure] at h
    obtain ⟨before, hbefore, hlast⟩ := Option.bind_eq_some_iff.mp h
    exact hstep as a before b (ih hbefore) hlast

-- What stands in the result was read from an element.
theorem mem_of_mapM {read : β → Option α} {bs : List β} {as : List α}
    (h : bs.mapM read = some as) {a : α} (ha : a ∈ as) : ∃ b ∈ bs, read b = some a := by
  induction bs generalizing as with
  | nil =>
    obtain rfl := Option.some.inj h
    cases ha
  | cons b bs ih =>
    rw [List.mapM_cons] at h
    obtain ⟨first, hfirst, h⟩ := Option.bind_eq_some_iff.mp h
    obtain ⟨rest, hrest, h⟩ := Option.bind_eq_some_iff.mp h
    obtain rfl := Option.some.inj h
    rcases List.mem_cons.mp ha with rfl | ha
    · exact ⟨b, List.mem_cons_self, hfirst⟩
    · obtain ⟨b', hb', hread⟩ := ih hrest ha
      exact ⟨b', List.mem_cons_of_mem _ hb', hread⟩

theorem isSome_mapM {read : β → Option α} {bs : List β}
    (h : ∀ b ∈ bs, (read b).isSome = true) : (bs.mapM read).isSome = true := by
  induction bs with
  | nil => rfl
  | cons b bs ih =>
    obtain ⟨hb, hrest⟩ := List.forall_mem_cons.mp h
    obtain ⟨a, ha⟩ := Option.isSome_iff_exists.mp hb
    obtain ⟨as, has⟩ := Option.isSome_iff_exists.mp (ih hrest)
    simp [List.mapM_cons, ha, has]

-- Equal lists are cut at the same place where as many marks stand before the cut.
theorem append_cons_inj_of_count [DecidableEq α] {mark : α} {as as' bs bs' : List α}
    (hcount : as.count mark = as'.count mark) (h : as ++ mark :: bs = as' ++ mark :: bs') :
    as = as' ∧ bs = bs' := by
  induction as generalizing as' with
  | nil =>
    cases as' with
    | nil => exact ⟨rfl, List.tail_eq_of_cons_eq h⟩
    | cons a' as' =>
      obtain rfl := List.head_eq_of_cons_eq h
      simp at hcount
  | cons a as ih =>
    cases as' with
    | nil =>
      obtain rfl := List.head_eq_of_cons_eq h
      simp at hcount
    | cons a' as' =>
      obtain ⟨rfl, htail⟩ := List.cons.inj h
      rw [List.count_cons, List.count_cons, Nat.add_right_cancel_iff] at hcount
      obtain ⟨rfl, hrest⟩ := ih hcount htail
      exact ⟨rfl, hrest⟩

end DemandRouting
