import DemandRouting.Proofs.Selection.Partition

namespace DemandRouting.Selection

variable {σ : Type} {settings : SelectionSettings} {ranked : List ScoredBidder}
  {narrow wide after : List Invitation} {low high : UInt64}

abbrev withCap (settings : SelectionSettings) (cap : UInt64) : SelectionSettings :=
  { settings with maxBidders := cap }

-- What is cut from a longer list is the whole of it as long as there is room.
theorem eq_of_room (hcut : narrow = wide.take low.toNat)
    (hroom : isFull (withCap settings low) narrow = false) : narrow = wide := by
  rw [not_isFull_iff] at hroom
  change narrow.length < low.toNat at hroom
  rw [hcut, List.length_take] at hroom
  rw [hcut, List.take_of_length_le (by omega)]

theorem not_isFull_withCap (hcap : low ≤ high)
    (hroom : isFull (withCap settings low) wide = false) :
    isFull (withCap settings high) wide = false := by
  have hle : low.toNat ≤ high.toNat := hcap
  rw [not_isFull_iff] at hroom ⊢
  exact Nat.lt_of_lt_of_le hroom hle

-- Nothing that is added behind the cut shows before it.
theorem Grows.take_eq {reasons : List InvitationReason} (hcut : narrow = wide.take low.toNat)
    (hfull : isFull (withCap settings low) narrow = true)
    (h : Grows (withCap settings high) ranked reasons wide after) :
    after.take low.toNat = narrow := by
  rw [isFull_iff] at hfull
  change low.toNat ≤ narrow.length at hfull
  rw [hcut, List.length_take] at hfull
  obtain ⟨added, rfl, _⟩ := h.exists_append
  rw [List.take_append_of_le_length (by omega), hcut]

-- Within the cap nothing is cut.
theorem Grows.eq_take {reasons : List InvitationReason}
    (hroom : isFull (withCap settings low) wide = false)
    (h : Grows (withCap settings low) ranked reasons wide after) :
    after = after.take low.toNat := by
  have hlength : after.length ≤ low.toNat := h.length_le (Nat.le_of_lt (not_isFull_iff.mp hroom))
  exact (List.take_of_length_le hlength).symm

-- A step keeps the cut if it only adds, within the cap, and does not look at the cap otherwise.
theorem step_cut {reasons : List InvitationReason}
    {f : SelectionSettings → List Invitation → List Invitation}
    (hgrows : ∀ cap invited, Grows (withCap settings cap) ranked reasons invited
      (f (withCap settings cap) invited))
    (hsame : ∀ invited, isFull (withCap settings low) invited = false →
      f (withCap settings low) invited = f (withCap settings high) invited)
    (hcut : narrow = wide.take low.toNat) :
    f (withCap settings low) narrow = (f (withCap settings high) wide).take low.toNat := by
  cases hfull : isFull (withCap settings low) narrow with
  | true =>
    rw [(hgrows low narrow).eq_of_isFull hfull]
    exact ((hgrows high wide).take_eq hcut hfull).symm
  | false =>
    obtain rfl := eq_of_room hcut hfull
    rw [← hsame narrow hfull]
    exact (hgrows low narrow).eq_take hfull

theorem addAnchor_cut (hcap : low ≤ high) (anchor : String) (hcut : narrow = wide.take low.toNat) :
    addAnchor (withCap settings low) ranked narrow anchor =
      (addAnchor (withCap settings high) ranked wide anchor).take low.toNat := by
  apply step_cut (f := fun settings invited => addAnchor settings ranked invited anchor)
    (fun cap invited => addAnchor_grows invited anchor) _ hcut
  intro invited hroom
  simp only [addAnchor, hroom, not_isFull_withCap hcap hroom]
  rfl

theorem addCategory_cut (hcap : low ≤ high) (category : String)
    (hcut : narrow = wide.take low.toNat) :
    addCategory (withCap settings low) ranked narrow category =
      (addCategory (withCap settings high) ranked wide category).take low.toNat := by
  apply step_cut (f := fun settings invited => addCategory settings ranked invited category)
    (fun cap invited => addCategory_grows invited category) _ hcut
  intro invited hroom
  simp only [addCategory, hroom, not_isFull_withCap hcap hroom]
  rfl

theorem withAnchors_cut (hcap : low ≤ high) (anchors : List String) :
    withAnchors (withCap settings low) ranked anchors =
      (withAnchors (withCap settings high) ranked anchors).take low.toNat := by
  unfold withAnchors
  exact List.foldl_rel (r := fun (narrow wide : List Invitation) => narrow = wide.take low.toNat)
    List.take_nil.symm fun anchor _ _ _ hcut => addAnchor_cut hcap anchor hcut

theorem withCategories_cut (hcap : low ≤ high) (format : AdFormat)
    (hcut : narrow = wide.take low.toNat) :
    withCategories (withCap settings low) ranked format narrow =
      (withCategories (withCap settings high) ranked format wide).take low.toNat := by
  cases hdiversity : settings.diversity with
  | true =>
    simp only [withCategories, withCap, hdiversity, ite_true]
    exact List.foldl_rel (r := fun (narrow wide : List Invitation) => narrow = wide.take low.toNat)
      hcut fun category _ _ _ hcut => addCategory_cut hcap category hcut
  | false => simpa only [withCategories, withCap, hdiversity, Bool.false_eq_true, ite_false]

-- The draws have to agree only as long as there is room, since there are none after that.
theorem withScorers_cut (g : Generator σ) (hcap : low ≤ high) {line : List ScoredBidder}
    (hline : line ⊆ ranked) (hcut : narrow = wide.take low.toNat) {s s' : σ}
    (hdraws : isFull (withCap settings low) narrow = false → s = s') :
    (withScorers g (withCap settings low) line narrow s).1 =
      (withScorers g (withCap settings high) line wide s').1.take low.toNat := by
  induction line generalizing narrow wide s s' with
  | nil => exact hcut
  | cons b line ih =>
    cases hfull : isFull (withCap settings low) narrow with
    | true =>
      rw [withScorers_of_isFull g _ s hfull]
      exact ((withScorers_grows g hline wide s').take_eq hcut hfull).symm
    | false =>
      obtain rfl := eq_of_room hcut hfull
      obtain rfl := hdraws hfull
      obtain ⟨hb, hrest⟩ := List.cons_subset.mp hline
      have hadd : ∀ i, narrow ++ [i] = (narrow ++ [i]).take low.toNat := by
        intro i
        rw [not_isFull_iff] at hfull
        change narrow.length < low.toNat at hfull
        rw [List.take_of_length_le (by simpa using hfull)]
      simp only [withScorers, hfull, not_isFull_withCap hcap hfull, Bool.false_eq_true, ite_false]
      by_cases hskip : (hasBidder narrow b.bidder || decide (b.total < settings.minScore)) = true
      · rw [if_pos hskip, if_pos hskip]
        exact ih hrest hcut fun _ => rfl
      rw [if_neg hskip, if_neg hskip]
      by_cases hlow : b.confidence < settings.lowConfidence
      · rw [if_pos hlow, if_pos hlow]
        by_cases hcoin : settings.explorationRate ≤ (g.coin s).1
        · rw [if_pos hcoin, if_pos hcoin]
          exact ih hrest hcut fun _ => rfl
        · rw [if_neg hcoin, if_neg hcoin]
          exact ih hrest (hadd _) fun _ => rfl
      · rw [if_neg hlow, if_neg hlow]
        exact ih hrest (hadd _) fun _ => rfl

theorem covered_cut (g : Generator σ) (hcap : low ≤ high) (anchors : List String)
    (scores : List ScoredBidder) (format : AdFormat) (s : σ) :
    covered g (withCap settings low) anchors scores format s =
      (covered g (withCap settings high) anchors scores format s).take low.toNat :=
  withCategories_cut hcap format
    (withScorers_cut g hcap (List.Subset.refl _) (withAnchors_cut hcap anchors) fun _ => rfl)

def isSlot (i : Invitation) : Bool := i.reason = .explorationSlot

-- Only the last step fills slots.
theorem filter_not_isSlot_invite (g : Generator σ) (settings : SelectionSettings)
    (anchors : List String) (scores : List ScoredBidder) (format : AdFormat) (s : σ) :
    (invite g settings anchors scores format s).1.filter (!isSlot ·) =
      covered g settings anchors scores format s := by
  have hcovered : ∀ i ∈ covered g settings anchors scores format s, (!isSlot i) = true := by
    intro i hi
    rcases (covered_grows_empty g settings anchors scores format s).mem hi with
      hnone | ⟨reason, hreason, b, _, _, rfl⟩
    · cases hnone
    · simp only [List.mem_cons, List.not_mem_nil, or_false] at hreason
      rcases hreason with rfl | rfl | rfl | rfl <;> rfl
  have hdrawn : ∀ picks : List ScoredBidder,
      (picks.map (.of settings .explorationSlot)).filter (!isSlot ·) = [] := by
    intro picks
    rw [List.filter_eq_nil_iff]
    intro i hi
    obtain ⟨b, _, rfl⟩ := List.mem_map.mp hi
    simp [isSlot, Invitation.of]
  rw [invite_eq, withSlots_eq_drawn, List.filter_append, List.filter_eq_self.mpr hcovered, hdrawn,
    List.append_nil]

theorem choose_cut (g : Generator σ) (settings : SelectionSettings) (source : Option AnchorSource)
    (scores : List ScoredBidder) (o : Opportunity) (s : σ) (hbypass : settings.bypass = false)
    (hshadow : settings.shadow = false) {low high : UInt64} (hcap : low ≤ high) :
    (choose g { settings with maxBidders := low } source scores o s).1.invited.filter (!isSlot ·) =
      ((choose g { settings with maxBidders := high } source scores o s).1.invited.filter
        (!isSlot ·)).take low.toNat := by
  have hnormal : ∀ cap, choose g { settings with maxBidders := cap } source scores o s =
      normal g (withCap settings cap) (anchorsOf settings source scores o) scores o.format s :=
    fun cap => choose_eq_normal g source scores o s hbypass hshadow
  simp only [hnormal, normal, filter_not_isSlot_invite]
  exact covered_cut g hcap _ scores o.format s

-- Above the lower cap the line goes on to a bidder that needs luck.
theorem choose_cut_fewCandidates :
    let settings : SelectionSettings := { explorationRate := 1.0 }
    let source : AnchorSource := fun _ _ => .immediate ["acme"]
    let o : Opportunity := .atTime ⟨0, 0⟩
    settings.bypass = false ∧ settings.shadow = false ∧ (3 : UInt64) ≤ 4 ∧
      (choose Stream.generator { settings with maxBidders := 3 } (some source) fewCandidates o
        (.ofSeed 7)).1.invited.filter (!isSlot ·) =
        ((choose Stream.generator { settings with maxBidders := 4 } (some source) fewCandidates o
          (.ofSeed 7)).1.invited.filter (!isSlot ·)).take 3 :=
  ⟨rfl, rfl, by decide,
    choose_cut Stream.generator { explorationRate := 1.0 } _ fewCandidates _ _ rfl rfl (by decide)⟩

end DemandRouting.Selection
