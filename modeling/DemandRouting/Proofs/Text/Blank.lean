import DemandRouting.Text.Blank
import Mathlib

namespace DemandRouting.Text

-- There is something in it, and nothing blank around it.
structure Trimmed (s : String) : Prop where
  first : ∃ c, s.toList.head? = some c ∧ isBlank c = false
  last : ∃ c, s.toList.getLast? = some c ∧ isBlank c = false

theorem stripChars_eq (p : Char → Bool) (cs : List Char) :
    stripChars p cs = (cs.dropWhile p).rdropWhile p := rfl

theorem isBlankText_eq_false_iff {s : String} :
    isBlankText s = false ↔ ∃ c ∈ s.toList, isBlank c = false := by
  rw [isBlankText, List.all_eq_false]
  simp only [Bool.not_eq_true]

theorem not_blank_getD {s fallback : String} (h : isBlankText fallback = false) :
    isBlankText ((nonBlank? s).getD fallback) = false := by
  unfold nonBlank?
  split
  · exact h
  · rename_i hblank
    exact Bool.eq_false_iff.mpr hblank

theorem Trimmed.not_blank {s : String} (h : Trimmed s) : isBlankText s = false := by
  obtain ⟨c, hc, hblank⟩ := h.first
  exact isBlankText_eq_false_iff.mpr ⟨c, List.mem_of_head? hc, hblank⟩

theorem Trimmed.append {s t : String} (hs : Trimmed s) (ht : Trimmed t) : Trimmed (s ++ t) := by
  obtain ⟨c, hc, hfirst⟩ := hs.first
  obtain ⟨d, hd, hlast⟩ := ht.last
  constructor
  · exact ⟨c, by rw [String.toList_append, List.head?_append, hc, Option.some_or], hfirst⟩
  · exact ⟨d, by rw [String.toList_append, List.getLast?_append, hd, Option.some_or], hlast⟩

section Strip

variable {p : Char → Bool} {cs : List Char} (h : ∃ c ∈ cs, p c = false)

include h

theorem dropWhile_ne_nil : cs.dropWhile p ≠ [] := by
  obtain ⟨c, hc, hp⟩ := h
  rw [Ne, List.dropWhile_eq_nil_iff]
  intro hall
  exact Bool.false_ne_true (hp.symm.trans (hall c hc))

theorem stripChars_ne_nil : stripChars p cs ≠ [] := by
  have hinner := dropWhile_ne_nil h
  rw [stripChars_eq, Ne, List.rdropWhile_eq_nil_iff]
  intro hall
  have hhead := List.head_dropWhile_not p hinner
  exact Bool.false_ne_true (hhead.symm.trans (hall _ (List.head_mem hinner)))

theorem head?_stripChars : ∃ c, (stripChars p cs).head? = some c ∧ p c = false := by
  have hinner := dropWhile_ne_nil h
  -- what goes at the end leaves the beginning
  obtain ⟨dropped, hdropped⟩ := List.rdropWhile_prefix p (cs.dropWhile p)
  rw [← stripChars_eq] at hdropped
  refine ⟨(cs.dropWhile p).head hinner, ?_, List.head_dropWhile_not p hinner⟩
  rw [← List.head?_eq_some_head hinner, ← hdropped,
    List.head?_append_of_ne_nil _ (stripChars_ne_nil h)]

theorem getLast?_stripChars : ∃ c, (stripChars p cs).getLast? = some c ∧ p c = false := by
  have hne := stripChars_ne_nil h
  refine ⟨(stripChars p cs).getLast hne, List.getLast?_eq_some_getLast hne, ?_⟩
  exact Bool.eq_false_iff.mpr (List.rdropWhile_last_not p (cs.dropWhile p) hne)

end Strip

theorem trimmed_trim {s : String} (h : isBlankText s = false) : Trimmed (trim s) := by
  rw [isBlankText_eq_false_iff] at h
  constructor
  · rw [trim, String.toList_ofList]
    exact head?_stripChars h
  · rw [trim, String.toList_ofList]
    exact getLast?_stripChars h

-- Of blanks alone nothing is left.
theorem trim_eq_empty_iff {s : String} : trim s = "" ↔ isBlankText s = true := by
  constructor
  · intro h
    by_contra hblank
    obtain ⟨c, hc, -⟩ := (trimmed_trim (Bool.eq_false_iff.mpr hblank)).first
    rw [h] at hc
    cases hc
  · intro h
    have hnone : s.toList.dropWhile isBlank = [] :=
      List.dropWhile_eq_nil_iff.mpr (List.all_eq_true.mp h)
    rw [trim, stripChars, hnone]
    rfl

-- To be blank and to have nothing left is the same, so that either may be asked first.
theorem map_trim_nonBlank? (s : String) :
    (nonBlank? s).map trim = if trim s = "" then none else some (trim s) := by
  unfold nonBlank?
  by_cases hblank : isBlankText s = true
  · rw [if_pos hblank, if_pos (trim_eq_empty_iff.mpr hblank), Option.map_none]
  · rw [if_neg hblank, if_neg (mt trim_eq_empty_iff.mp hblank), Option.map_some]

end DemandRouting.Text
