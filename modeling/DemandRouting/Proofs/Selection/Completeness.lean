import DemandRouting.Proofs.Selection.Partition

namespace DemandRouting.Selection

variable {σ : Type} {settings : SelectionSettings} {ranked scores : List ScoredBidder}
  {reasons : List InvitationReason} {before after invited : List Invitation}

theorem ScorerStep.mem {g : Generator σ} {b : ScoredBidder} {next : List Invitation} {s s' : σ}
    (h : ScorerStep g settings b invited s next s') {i : Invitation} (hi : i ∈ next) :
    i ∈ invited ∨ i.bidder = b.bidder := by
  cases h with
  | known => exact .inl hi
  | below => exact .inl hi
  | unlucky => exact .inl hi
  | lucky =>
    rcases List.mem_append.mp hi with hi | hi
    · exact .inl hi
    · exact .inr (List.mem_singleton.mp hi ▸ rfl)
  | high =>
    rcases List.mem_append.mp hi with hi | hi
    · exact .inl hi
    · exact .inr (List.mem_singleton.mp hi ▸ rfl)

-- An eligible bidder whose turn comes has an invitation afterwards.
theorem ScorerStep.hasBidder {g : Generator σ} {c : ScoredBidder} {next : List Invitation}
    {s s' : σ} (h : ScorerStep g settings c invited s next s')
    (hw : Warrants settings .highScore c) : hasBidder next c.bidder = true := by
  cases h with
  | known hknown => exact hknown
  | below hbelow => exact absurd hbelow hw.1
  | unlucky _ hlow => exact absurd hlow.2 hw.2
  | lucky _ hlow => exact absurd hlow.2 hw.2
  | high => rw [hasBidder_iff]; simp [Invitation.of]

-- The loop misses an eligible bidder only if the cap stops it before, with nobody but earlier
-- bidders invited.
theorem withScorers_misses (g : Generator σ) {c : ScoredBidder}
    (hw : Warrants settings .highScore c) {rest : List ScoredBidder} (hc : c ∈ rest)
    (invited : List Invitation) (s : σ)
    (hout : hasBidder (withScorers g settings rest invited s).1 c.bidder = false) :
    isFull settings (withScorers g settings rest invited s).1 = true ∧
      ∀ i ∈ (withScorers g settings rest invited s).1,
        i ∈ invited ∨ ∃ b, i.bidder = b.bidder ∧ [b, c].Sublist rest := by
  induction rest generalizing invited s with
  | nil => cases hc
  | cons b rest ih =>
    cases hfull : isFull settings invited with
    | true =>
      rw [withScorers_of_isFull g _ s hfull]
      exact ⟨hfull, fun i hi => .inl hi⟩
    | false =>
      obtain ⟨next, s', hstep, heq⟩ := withScorers_cons g b rest s hfull
      rw [heq] at hout ⊢
      rcases List.mem_cons.mp hc with rfl | hc
      · have hgrows : Grows settings rest [.highScore, .exploration] next
            (withScorers g settings rest next s').1 :=
          withScorers_grows g (List.Subset.refl rest) _ _
        have hin := hgrows.hasBidder_mono hout
        rw [hstep.hasBidder hw] at hin
        cases hin
      · obtain ⟨hend, hall⟩ := ih hc next s' hout
        refine ⟨hend, fun i hi => ?_⟩
        rcases hall i hi with hnext | ⟨d, hd, hsub⟩
        · rcases hstep.mem hnext with hi | hcode
          · exact .inl hi
          · exact .inr ⟨b, hcode, (List.singleton_sublist.mpr hc).cons_cons b⟩
        · exact .inr ⟨d, hd, hsub.cons b⟩

-- Somebody invited is of the category, or no candidate is.
def Covers (settings : SelectionSettings) (ranked : List ScoredBidder) (category : String)
    (invited : List Invitation) : Prop :=
  (∃ i ∈ invited, settings.categories.ofBidder? i.bidder = some category) ∨
    ∀ b ∈ ranked, settings.categories.ofBidder? b.bidder ≠ some category

theorem Covers.mono {category : String} (h : Covers settings ranked category before)
    (hgrows : Grows settings ranked reasons before after) :
    Covers settings ranked category after := by
  rcases h with ⟨i, hi, hcategory⟩ | hnone
  · exact .inl ⟨i, hgrows.isPrefix.subset hi, hcategory⟩
  · exact .inr hnone

theorem addCategory_covers (category : String) (hlabelled : Labelled settings invited)
    (hroom : isFull settings invited = false) :
    Covers settings ranked category (addCategory settings ranked invited category) := by
  unfold addCategory
  by_cases hthere : invited.any (·.category == some category) = true
  · obtain ⟨i, hi, hcategory⟩ := List.any_eq_true.mp hthere
    rw [beq_iff_eq, hlabelled i hi] at hcategory
    simp only [hthere, Bool.or_true, ite_true]
    exact .inl ⟨i, hi, hcategory⟩
  · rw [Bool.not_eq_true] at hthere
    simp only [hroom, hthere, Bool.or_false, Bool.false_eq_true, ite_false]
    split
    · rename_i b hfind
      have hbest := List.find?_some hfind
      rw [Bool.and_eq_true, beq_iff_eq] at hbest
      exact .inl ⟨.of settings .diversity b, by simp, hbest.2⟩
    · -- whoever is of the category has an invitation, and then the category would be there
      rename_i hnone
      refine .inr fun b hb hcategory => ?_
      have hskipped := List.find?_eq_none.mp hnone b hb
      rw [Bool.and_eq_true, Bool.not_eq_true', beq_iff_eq, not_and'] at hskipped
      have hin := hskipped hcategory
      rw [Bool.not_eq_false, hasBidder_iff] at hin
      obtain ⟨i, hi, hcode⟩ := List.mem_map.mp hin
      have hmissing := List.any_eq_false.mp hthere i hi
      rw [beq_iff_eq, hlabelled i hi, hcode] at hmissing
      exact hmissing hcategory

theorem foldl_addCategory_covers (categories : List String) (hlabelled : Labelled settings invited)
    (hroom : isFull settings (categories.foldl (addCategory settings ranked) invited) = false) :
    ∀ category ∈ categories, Covers settings ranked category
      (categories.foldl (addCategory settings ranked) invited) := by
  induction categories generalizing invited with
  | nil => simp
  | cons first categories ih =>
    rw [List.foldl_cons] at hroom ⊢
    have hstep : Grows settings ranked [.diversity] invited
        (addCategory settings ranked invited first) := addCategory_grows invited first
    have hrest : Grows settings ranked [.diversity] (addCategory settings ranked invited first)
        (categories.foldl (addCategory settings ranked)
          (addCategory settings ranked invited first)) := Grows.foldl addCategory_grows _ _
    intro category hcategory
    rcases List.mem_cons.mp hcategory with rfl | hcategory
    · have hbefore := (hstep.trans hrest).not_isFull hroom
      exact (addCategory_covers category hlabelled hbefore).mono hrest
    · exact ih (hstep.labelled hlabelled) hroom category hcategory

theorem countP_slots_eq_zero (h : Grows settings ranked reasons [] invited)
    (hother : .explorationSlot ∉ reasons) :
    invited.countP (·.reason = .explorationSlot) = 0 := by
  rw [List.countP_eq_zero]
  intro i hi
  rcases h.mem hi with hnone | ⟨reason, hr, b, _, _, rfl⟩
  · cases hnone
  · rw [decide_eq_true_eq]
    exact fun heq => hother (heq ▸ hr)

-- While there is room the slots are all taken, or the whole pool has been drawn.
theorem withSlots_fills {g : Generator σ} (hg : g.Lawful) (hcodes : (ranked.map (·.bidder)).Nodup)
    (invited : List Invitation) (s : σ)
    (hroom : (withSlots g settings ranked invited s).1.length < settings.maxBidders.toNat) :
    (withSlots g settings ranked invited s).1.countP (·.reason = .explorationSlot) =
        invited.countP (·.reason = .explorationSlot) + settings.explorationSlots.toNat ∨
      ∀ c ∈ pool settings ranked invited,
        hasBidder (withSlots g settings ranked invited s).1 c.bidder = true := by
  have hlength : (drawn g settings ranked invited s).length = slots settings ranked invited :=
    length_drawn hg invited s
  have hnodup : ((drawn g settings ranked invited s).map (·.bidder)).Nodup :=
    nodup_drawn hg invited s (nodup_pool hcodes invited)
  have hsub : drawn g settings ranked invited s ⊆ pool settings ranked invited :=
    drawn_subset_pool g invited s
  rw [withSlots_eq_drawn, List.length_append, List.length_map] at hroom
  rw [withSlots_eq_drawn]
  generalize drawn g settings ranked invited s = picks at hlength hnodup hsub hroom ⊢
  by_cases hall : slots settings ranked invited = settings.explorationSlots.toNat
  · refine .inl ?_
    have hcount : (picks.map (Invitation.of settings .explorationSlot)).countP
        (·.reason = .explorationSlot) = picks.length := by
      rw [← List.length_map (Invitation.of settings .explorationSlot), List.countP_eq_length]
      intro i hi
      obtain ⟨b, _, rfl⟩ := List.mem_map.mp hi
      simp [Invitation.of]
    rw [List.countP_append, hcount, hlength, hall]
  · refine .inr fun c hc => ?_
    have hwhole : (pool settings ranked invited).length ≤ picks.length := by
      unfold slots at hall hlength
      omega
    have hperm := (List.subperm_of_subset hnodup.of_map hsub).perm_of_length_le hwhole
    rw [hasBidder_iff, List.map_append, List.mem_append]
    exact .inr (List.mem_map.mpr ⟨_, List.mem_map_of_mem (hperm.mem_iff.mpr hc), rfl⟩)

-- Reasons why somebody or something was left out of a selection.
structure LeavesOutForReason (settings : SelectionSettings) (scores : List ScoredBidder)
    (format : AdFormat) (r : Selection) : Prop where
  -- an eligible bidder: the cap, reached with anchors and with bidders that stand before it
  eligible : ∀ c ∈ scores, c.bidder ∈ r.excluded → ¬ c.total < settings.minScore →
    ¬ c.confidence < settings.lowConfidence →
    r.invited.length = settings.maxBidders.toNat ∧
      (∀ i ∈ r.invited, i.reason = .anchor ∨ i.reason = .highScore ∨ i.reason = .exploration) ∧
      ∀ i ∈ r.invited, i.reason = .highScore ∨ i.reason = .exploration →
        ∃ b ∈ scores, i.bidder = b.bidder ∧ ScoredBidder.Outranks scores b c
  -- a category that is wanted and configured: nobody is of it
  category : r.invited.length < settings.maxBidders.toNat → settings.diversity = true →
    ∀ category ∈ Categories.wanted format, category ∈ settings.diversityCategories →
      (∃ i ∈ r.invited, settings.categories.ofBidder? i.bidder = some category) ∨
        ∀ b ∈ scores, settings.categories.ofBidder? b.bidder ≠ some category
  -- an exploration slot: nobody of little confidence is excluded
  slot : r.invited.length < settings.maxBidders.toNat →
    r.invited.countP (·.reason = .explorationSlot) = settings.explorationSlots.toNat ∨
      ∀ c ∈ scores, c.bidder ∈ r.excluded → ¬ c.confidence < settings.slotConfidence

section Stages

variable {g : Generator σ} (hg : g.Lawful) (anchors : List String) (format : AdFormat) (s : σ)
  (hcodes : (scores.map (·.bidder)).Nodup)

include hg hcodes

-- An eligible bidder without an invitation means that the cap was reached by the high scorers.
theorem invite_eq_scored {c : ScoredBidder} (hc : c ∈ scores)
    (hw : Warrants settings .highScore c)
    (hout : hasBidder (invite g settings anchors scores format s).1 c.bidder = false) :
    (invite g settings anchors scores format s).1 = (scored g settings anchors scores s).1 ∧
      isFull settings (scored g settings anchors scores s).1 = true ∧
      ∀ i ∈ (scored g settings anchors scores s).1,
        i ∈ withAnchors settings (ScoredBidder.bestFirst scores) anchors ∨
          ∃ b, i.bidder = b.bidder ∧ [b, c].Sublist (ScoredBidder.bestFirst scores) := by
  have hcovered := covered_grows g settings anchors scores format s
  have hslots := invite_grows settings anchors format s hg hcodes
  have hmiss := withScorers_misses g hw (ScoredBidder.mem_bestFirst.mpr hc) _ s
    (hcovered.hasBidder_mono (hslots.hasBidder_mono hout))
  have hsame := hcovered.eq_of_isFull hmiss.1
  refine ⟨?_, hmiss⟩
  rw [hslots.eq_of_isFull (hsame ▸ hmiss.1), hsame]

theorem invite_covers
    (hroom : isFull settings (invite g settings anchors scores format s).1 = false)
    (hdiversity : settings.diversity = true) {category : String}
    (hwanted : category ∈ Categories.required format settings.diversityCategories) :
    Covers settings (ScoredBidder.bestFirst scores) category
      (invite g settings anchors scores format s).1 := by
  have hslots := invite_grows settings anchors format s hg hcodes
  have hlabelled : Labelled settings (scored g settings anchors scores s).1 :=
    (scored_grows g settings anchors scores s).labelled (by simp [Labelled])
  have hbefore := hslots.not_isFull hroom
  apply Covers.mono _ hslots
  unfold covered withCategories at hbefore ⊢
  simp only [hdiversity, ite_true] at hbefore ⊢
  exact foldl_addCategory_covers _ hlabelled hbefore category hwanted

theorem invite_fills
    (hroom : isFull settings (invite g settings anchors scores format s).1 = false) :
    (invite g settings anchors scores format s).1.countP (·.reason = .explorationSlot) =
        settings.explorationSlots.toNat ∨
      ∀ c ∈ scores,
        hasBidder (invite g settings anchors scores format s).1 c.bidder = false →
          ¬ c.confidence < settings.slotConfidence := by
  have hnone := countP_slots_eq_zero (covered_grows_empty g settings anchors scores format s)
    (by decide)
  rw [invite_eq, not_isFull_iff] at hroom
  rw [invite_eq]
  rcases withSlots_fills hg (ScoredBidder.nodup_codes_bestFirst hcodes) _ _ hroom with hall | hpool
  · exact .inl (by rw [hall, hnone, Nat.zero_add])
  · refine .inr fun c hc hout hlow => ?_
    have hslots := invite_grows settings anchors format s hg hcodes
    have hin := hpool c (mem_pool.mpr
      ⟨ScoredBidder.mem_bestFirst.mpr hc, hslots.hasBidder_mono hout, hlow⟩)
    rw [hout] at hin
    cases hin

end Stages

-- A bidder that was excluded has no invitation.
theorem hasBidder_of_mem_left {c : ScoredBidder}
    (h : c.bidder ∈ (left scores invited).map (·.bidder)) : hasBidder invited c.bidder = false :=
  not_hasBidder_iff.mpr (mem_codes_left.mp h).2

theorem choose_leavesOutForReason (g : Generator σ) (hg : g.Lawful) (settings : SelectionSettings)
    (source : Option AnchorSource) (scores : List ScoredBidder) (o : Opportunity) (s : σ)
    (hbypass : settings.bypass = false) (hshadow : settings.shadow = false)
    (hcodes : (scores.map (·.bidder)).Nodup) :
    LeavesOutForReason settings scores o.format (choose g settings source scores o s).1 := by
  rw [choose_eq_normal g source scores o s hbypass hshadow]
  constructor
  case eligible =>
    intro c hc hout hmin hlow
    obtain ⟨heq, hfull, hfrom⟩ :=
      invite_eq_scored hg _ o.format s hcodes hc ⟨hmin, hlow⟩ (hasBidder_of_mem_left hout)
    have hgrows := scored_grows g settings (anchorsOf settings source scores o) scores s
    simp only [normal, heq]
    refine ⟨?_, ?_, ?_⟩
    · exact Nat.le_antisymm (hgrows.length_le (Nat.zero_le _)) (isFull_iff.mp hfull)
    · intro i hi
      rcases hgrows.mem hi with hnone | ⟨reason, hr, b, _, _, rfl⟩
      · cases hnone
      · simpa [Invitation.of] using hr
    · intro i hi hreason
      rcases hfrom i hi with hanchor | ⟨b, hcode, hsub⟩
      · -- anchors are invited for no other reason
        rcases (withAnchors_grows _).mem hanchor with hnone | ⟨reason, hr, b, _, _, rfl⟩
        · cases hnone
        · rw [List.mem_singleton.mp hr] at hreason
          rcases hreason with hreason | hreason <;> cases hreason
      · have hb : b ∈ ScoredBidder.bestFirst scores := hsub.subset (by simp)
        exact ⟨b, ScoredBidder.mem_bestFirst.mp hb, hcode, ScoredBidder.outranks_of_sublist hsub⟩
  case category =>
    intro hroom hdiversity category hwanted hconfigured
    have hrequired : category ∈ Categories.required o.format settings.diversityCategories :=
      List.mem_filter.mpr ⟨hwanted, by simpa using hconfigured⟩
    rcases invite_covers hg _ o.format s hcodes (not_isFull_iff.mpr hroom) hdiversity hrequired with
      hin | hnone
    · exact .inl hin
    · exact .inr fun b hb => hnone b (ScoredBidder.mem_bestFirst.mpr hb)
  case slot =>
    intro hroom
    rcases invite_fills hg _ o.format s hcodes (not_isFull_iff.mpr hroom) with hall | hnone
    · exact .inl hall
    · exact .inr fun c hc hout => hnone c hc (hasBidder_of_mem_left hout)

theorem choose_leavesOutForReason_fewCandidates :
    (fewCandidates.map (·.bidder)).Nodup ∧
      LeavesOutForReason { maxBidders := 2 } fewCandidates (Opportunity.atTime ⟨0, 0⟩).format
        (choose Stream.generator { maxBidders := 2 }
          (some (Anchors.fixed .empty ["acme", "nobody", "acme"])) fewCandidates
          (.atTime ⟨0, 0⟩) (.ofSeed 7)).1 :=
  ⟨by decide,
    choose_leavesOutForReason Stream.generator Stream.generator_lawful _ _ _ _ _ rfl rfl
      (by decide)⟩

end DemandRouting.Selection
