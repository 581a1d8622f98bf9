import DemandRouting.Opportunity.Classify
import DemandRouting.Proofs.Text.Blank

namespace DemandRouting

open OpenRtb Text

-- What a field holds at its present place and at its old one.
structure Places where
  present : Option String
  old : Option String

namespace Places

-- The first value with something in it besides blanks.
def firstFilled? (p : Places) : Option String :=
  (p.present.bind nonBlank?).or (p.old.bind nonBlank?)

-- Nothing but blanks in front of something else.
def Masks (p : Places) : Prop :=
  (∃ s, p.present = some s ∧ isBlankText s = true) ∧
    ∃ s, p.old = some s ∧ isBlankText s = false

-- What is read of a field is its first value, blank or not.
def read? (p : Places) : Option String := (p.present.or p.old).bind nonBlank?

theorem read?_of_masks {p : Places} (h : p.Masks) :
    p.read? = none ∧ ∃ s, p.firstFilled? = some s := by
  obtain ⟨⟨s, hs, hblank⟩, t, ht, hfilled⟩ := h
  constructor
  · rw [read?, hs, Option.some_or, Option.bind_some, nonBlank?, if_pos hblank]
  · refine ⟨t, ?_⟩
    rw [firstFilled?, hs, ht, Option.bind_some, Option.bind_some, nonBlank?, if_pos hblank,
      Option.none_or, nonBlank?, if_neg (Bool.eq_false_iff.mp hfilled)]

theorem read?_of_not_masks {p : Places} (h : ¬ p.Masks) : p.read? = p.firstFilled? := by
  rw [read?, firstFilled?]
  cases hpresent : p.present with
  | none => simp
  | some s =>
    rw [Option.some_or, Option.bind_some]
    by_cases hblank : isBlankText s = true
    · -- nothing stands behind the blanks
      have hold : p.old.bind nonBlank? = none := by
        rw [Option.bind_eq_none_iff]
        intro t ht
        by_contra hfilled
        exact h ⟨⟨s, hpresent, hblank⟩, t, ht, by simpa [nonBlank?] using hfilled⟩
      rw [hold, Option.or_none]
    · rw [nonBlank?, if_neg hblank, Option.some_or]

end Places

def usPrivacyPlaces (r : BidRequest) : Places :=
  ⟨r.regs.bind (·.usPrivacy), (r.regs.bind (·.ext)).bind (·.usPrivacy)⟩

def consentPlaces (r : BidRequest) : Places :=
  ⟨r.user.bind (·.consent), (r.user.bind (·.ext)).bind (·.consent)⟩

-- Yes, no, or neither.
def flags : List Char := ['Y', 'y', 'N', 'n', '-']

-- Version 1 and three flags, the second of them yes.
def OptsOut (s : String) : Prop :=
  ∃ notice optOut limited, (trim s).toList = ['1', notice, optOut, limited] ∧
    notice ∈ flags ∧ (optOut = 'Y' ∨ optOut = 'y') ∧ limited ∈ flags

theorem toUpper_eq_iff {upper lower : Char} (h : 65 ≤ upper.val ∧ upper.val ≤ 90)
    (hlower : lower.val = upper.val + 32) (c : Char) :
    c.toUpper = upper ↔ c = upper ∨ c = lower := by
  simp only [Char.toUpper, Char.ext_iff] at h ⊢
  grind

namespace Consent

theorem isYes_iff (c : Char) : c.toUpper = 'Y' ↔ c = 'Y' ∨ c = 'y' :=
  toUpper_eq_iff (by decide) rfl c

theorem isFlag_iff (c : Char) : isFlag c = true ↔ c ∈ flags := by
  have hno : c.toUpper = 'N' ↔ c = 'N' ∨ c = 'n' := toUpper_eq_iff (by decide) rfl c
  simp only [isFlag, Bool.or_eq_true, beq_iff_eq, isYes_iff, hno, flags, List.mem_cons,
    List.not_mem_nil, or_false, or_assoc]

theorem ofText?_eq_some_iff {s : String} {a : UsPrivacy} :
    UsPrivacy.ofText? s = some a ↔
      s.toList = ['1', a.notice, a.optOut, a.limited] ∧ a.notice ∈ flags ∧ a.optOut ∈ flags ∧
        a.limited ∈ flags := by
  unfold UsPrivacy.ofText?
  constructor
  · intro h
    split at h
    · rename_i hs
      split at h
      · rename_i hflags
        obtain rfl := Option.some.inj h
        simp only [Bool.and_eq_true, isFlag_iff] at hflags
        exact ⟨hs, hflags.1.1, hflags.1.2, hflags.2⟩
      · cases h
    · cases h
  · rintro ⟨hs, hnotice, hoptOut, hlimited⟩
    rw [hs]
    simp only [← isFlag_iff] at hnotice hoptOut hlimited
    simp only [hnotice, hoptOut, hlimited, Bool.and_self, ite_true]

theorem optsOut_iff (s : String) :
    (UsPrivacy.ofText? (trim s)).any (fun a => a.optOut.toUpper == 'Y') = true ↔ OptsOut s := by
  rw [Option.any_eq_true]
  constructor
  · rintro ⟨a, ha, hyes⟩
    obtain ⟨hs, hnotice, -, hlimited⟩ := ofText?_eq_some_iff.mp ha
    exact ⟨a.notice, a.optOut, a.limited, hs, hnotice, (isYes_iff _).mp (eq_of_beq hyes), hlimited⟩
  · rintro ⟨notice, optOut, limited, hs, hnotice, hyes, hlimited⟩
    have hoptOut : optOut ∈ flags := by rcases hyes with rfl | rfl <;> decide
    refine ⟨⟨notice, optOut, limited⟩, ?_, beq_iff_eq.mpr ((isYes_iff _).mpr hyes)⟩
    exact ofText?_eq_some_iff.mpr ⟨hs, hnotice, hoptOut, hlimited⟩

-- Blanks count as nothing, and what is left is trimmed.
theorem bind_trimmed? (s : Option String) : s.bind trimmed? = (s.bind nonBlank?).map trim := by
  cases s with
  | none => rfl
  | some s =>
    rw [Option.bind_some, Option.bind_some, map_trim_nonBlank?, trimmed?]
    exact ite_cond_congr (propext String.isEmpty_iff)

theorem ofRequest_places (r : BidRequest) :
    (ConsentSignals.ofRequest r).usPrivacy.bind nonBlank? = (usPrivacyPlaces r).read? ∧
      (ConsentSignals.ofRequest r).consentString.bind nonBlank? = (consentPlaces r).read? := by
  constructor
  · cases hregs : r.regs with
    | none => simp [ConsentSignals.ofRequest, usPrivacyPlaces, Places.read?, hregs]
    | some regs => simp [ConsentSignals.ofRequest, usPrivacyPlaces, Places.read?, hregs]
  · cases huser : r.user with
    | none => simp [ConsentSignals.ofRequest, consentPlaces, Places.read?, huser]
    | some user => simp [ConsentSignals.ofRequest, consentPlaces, Places.read?, huser]

-- What the signals of a request tell, in terms of what is read at the two places of each.
theorem ofSignals_ofRequest (r : BidRequest) :
    let c := ofSignals (.ofRequest r)
    c.usPrivacy = (usPrivacyPlaces r).read?.map trim ∧
      (c.usPrivacyOptOut = true ↔ ∃ s, (usPrivacyPlaces r).read? = some s ∧ OptsOut s) ∧
      c.tcfConsent = (consentPlaces r).read? := by
  intro c
  obtain ⟨hus, htcf⟩ := ofRequest_places r
  have husPrivacy : c.usPrivacy = (usPrivacyPlaces r).read?.map trim := by
    rw [← hus, ← bind_trimmed?]
    rfl
  refine ⟨husPrivacy, ?_, htcf⟩
  have hoptOut : c.usPrivacyOptOut =
      (c.usPrivacy.bind UsPrivacy.ofText?).any fun a => a.optOut.toUpper == 'Y' := rfl
  rw [hoptOut, husPrivacy]
  cases (usPrivacyPlaces r).read? with
  | none => simp
  | some s => simpa using optsOut_iff s

end Consent

namespace Opportunity

open Consent

-- What a request says of consent is the first value that is not blank exactly if no blanks stand in
-- front of it, and an opt-out counts wherever it is that value. Where there are blanks in front,
-- whatever stands behind them is lost, and so is an opt-out.
theorem classifyImpression_unmasked_iff (now : Timestamp) (fresh : FreshIds) (r : BidRequest)
    (imp : Option Imp) :
    let c := (classifyImpression now fresh r imp).consent
    let us := usPrivacyPlaces r
    let tcf := consentPlaces r
    (c.usPrivacy = us.firstFilled?.map trim ↔ ¬ us.Masks) ∧
      (c.tcfConsent = tcf.firstFilled? ↔ ¬ tcf.Masks) ∧
      (us.Masks → c.usPrivacy = none ∧ c.usPrivacyOptOut = false) ∧
      (tcf.Masks → c.tcfConsent = none) ∧
      (¬ us.Masks → (c.usPrivacyOptOut = true ↔ ∃ s, us.firstFilled? = some s ∧ OptsOut s)) := by
  intro c us tcf
  obtain ⟨hus, hoptOut, htcf⟩ : c.usPrivacy = us.read?.map trim ∧
      (c.usPrivacyOptOut = true ↔ ∃ s, us.read? = some s ∧ OptsOut s) ∧
      c.tcfConsent = tcf.read? := ofSignals_ofRequest r
  refine ⟨⟨fun heq hmasks => ?_, fun hclear => ?_⟩, ⟨fun heq hmasks => ?_, fun hclear => ?_⟩,
    fun hmasks => ?_, fun hmasks => ?_, fun hclear => ?_⟩
  · obtain ⟨hread, s, hfilled⟩ := Places.read?_of_masks hmasks
    rw [hus, hread, hfilled] at heq
    cases heq
  · rw [hus, Places.read?_of_not_masks hclear]
  · obtain ⟨hread, s, hfilled⟩ := Places.read?_of_masks hmasks
    rw [htcf, hread, hfilled] at heq
    cases heq
  · rw [htcf, Places.read?_of_not_masks hclear]
  · obtain ⟨hread, -⟩ := Places.read?_of_masks hmasks
    rw [hread] at hus hoptOut
    exact ⟨hus, Bool.eq_false_iff.mpr fun h => by simpa using hoptOut.mp h⟩
  · rw [htcf, (Places.read?_of_masks hmasks).1]
  · rw [hoptOut, Places.read?_of_not_masks hclear]

-- A US privacy string at the old place, and whatever is at the present one.
def oldPlaceRequest (present : Option String) : BidRequest :=
  { regs := some { usPrivacy := present, ext := some { usPrivacy := some "1YYN" } } }

-- The same letter in all tags.
def plainIds : FreshIds :=
  let tag : FreshTag := .replicate 12 ⟨0, by decide⟩
  ⟨0, tag, tag, tag⟩

-- What is classified of such a request, which does not depend on the fresh ids.
def oldPlaceConsent (present : Option String) : Consent :=
  (classifyImpression ⟨0, 0⟩ plainIds (oldPlaceRequest present) none).consent

theorem optsOut_oldPlace : OptsOut "1YYN" :=
  ⟨'Y', 'Y', 'N', by decide +kernel, by decide, .inl rfl, by decide⟩

theorem classifyImpression_unmasked_oldPlace :
    ¬ (usPrivacyPlaces (oldPlaceRequest none)).Masks ∧
      (oldPlaceConsent none).usPrivacy = some "1YYN" ∧
      (oldPlaceConsent none).usPrivacyOptOut = true := by
  have hclear : ¬ (usPrivacyPlaces (oldPlaceRequest none)).Masks := by
    rintro ⟨⟨s, hs, -⟩, -⟩
    cases hs
  have hfilled : (usPrivacyPlaces (oldPlaceRequest none)).firstFilled? = some "1YYN" := by
    decide +kernel
  obtain ⟨husPrivacy, -, -, -, hoptOut⟩ :=
    classifyImpression_unmasked_iff ⟨0, 0⟩ plainIds (oldPlaceRequest none) none
  refine ⟨hclear, ?_, (hoptOut hclear).mpr ⟨_, hfilled, optsOut_oldPlace⟩⟩
  refine (husPrivacy.mpr hclear).trans ?_
  rw [hfilled]
  decide +kernel

-- An empty string at the present place, and the opt-out behind it is lost.
theorem classifyImpression_empty_masks :
    (usPrivacyPlaces (oldPlaceRequest (some ""))).firstFilled? = some "1YYN" ∧ OptsOut "1YYN" ∧
      (oldPlaceConsent (some "")).usPrivacy = none ∧
      (oldPlaceConsent (some "")).usPrivacyOptOut = false :=
  ⟨by decide +kernel, optsOut_oldPlace, by decide +kernel, by decide +kernel⟩

end Opportunity
end DemandRouting
