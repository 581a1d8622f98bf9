import DemandRouting.Url.Percent
import Mathlib.Data.List.Basic

namespace DemandRouting.Url

def blankForPlus (c : Char) : Char := if c = '+' then ' ' else c

-- A query value as the receiver reads it.
def unform (cs : List Char) : Option (List Char) := decode (cs.map blankForPlus)

theorem hexValue_hexUpper : ∀ n < 16, hexValue (hexUpper n) = some n := by decide

theorem blankForPlus_hexUpper : ∀ n < 16, blankForPlus (hexUpper n) = hexUpper n := by decide

theorem map_percentByte (b : UInt8) : (percentByte b).map blankForPlus = percentByte b := by
  have hbyte := b.toNat_lt
  have hhigh := blankForPlus_hexUpper (b.toNat / 16) (by omega)
  have hlow := blankForPlus_hexUpper (b.toNat % 16) (by omega)
  simp only [percentByte, List.map_cons, List.map_nil, hhigh, hlow]
  rfl

theorem decodeBytes_percentByte (b : UInt8) (rest : List Char) :
    decodeBytes (percentByte b ++ rest) = b :: decodeBytes rest := by
  have hbyte := b.toNat_lt
  have hhigh := hexValue_hexUpper (b.toNat / 16) (by omega)
  have hlow := hexValue_hexUpper (b.toNat % 16) (by omega)
  have hboth : UInt8.ofNat (16 * (b.toNat / 16) + b.toNat % 16) = b := by
    rw [Nat.div_add_mod, UInt8.ofNat_toNat]
  simp only [percentByte, List.cons_append, List.nil_append, decodeBytes, hhigh, hlow, hboth]

theorem decodeBytes_percentBytes (bs : List UInt8) (rest : List Char) :
    decodeBytes ((bs.flatMap percentByte).map blankForPlus ++ rest) = bs ++ decodeBytes rest := by
  induction bs with
  | nil => rfl
  | cons b bs ih =>
    rw [List.flatMap_cons, List.map_append, map_percentByte, List.append_assoc,
      decodeBytes_percentByte, ih, List.cons_append]

theorem decodeBytes_plain {c : Char} (h : c ≠ '%') (rest : List Char) :
    decodeBytes (c :: rest) = String.utf8EncodeChar c ++ decodeBytes rest := by
  rw [decodeBytes]
  exact fun _ _ _ heq => absurd heq h

theorem decodeBytes_formChar (c : Char) (rest : List Char) :
    decodeBytes ((formChar c).map blankForPlus ++ rest) =
      String.utf8EncodeChar c ++ decodeBytes rest := by
  by_cases hblank : c = ' '
  · subst hblank
    exact decodeBytes_plain (by decide) rest
  rw [formChar, if_neg hblank, encodeChar]
  split
  · exact decodeBytes_percentBytes _ rest
  · rename_i hkept
    -- neither the plus nor the mark of an escape stands for itself
    have hplus : c ≠ '+' := by
      rintro rfl
      exact hkept (by decide)
    have hescape : c ≠ '%' := by
      rintro rfl
      exact hkept (by decide)
    rw [List.map_singleton, blankForPlus, if_neg hplus]
    exact decodeBytes_plain hescape rest

theorem decodeBytes_form (cs : List Char) :
    decodeBytes ((form cs).map blankForPlus) = cs.flatMap String.utf8EncodeChar := by
  induction cs with
  | nil => rfl
  | cons c cs ih =>
    have hform : form (c :: cs) = formChar c ++ form cs := rfl
    rw [hform, List.map_append, decodeBytes_formChar, ih, List.flatMap_cons]

theorem unform_form (cs : List Char) : unform (form cs) = some cs := by
  have hbytes : (cs.flatMap String.utf8EncodeChar).toByteArray = (String.ofList cs).toByteArray :=
    String.toByteArray_ofList.symm
  rw [unform, decode, decodeBytes_form, hbytes, String.fromUTF8?,
    dif_pos (String.ofList cs).isValidUTF8]
  exact congrArg some String.toList_ofList

theorem form_inj {cs cs' : List Char} : form cs = form cs' ↔ cs = cs' := by
  refine ⟨fun h => ?_, congrArg form⟩
  have hread := unform_form cs
  rw [h, unform_form, Option.some_inj] at hread
  exact hread.symm

end DemandRouting.Url
