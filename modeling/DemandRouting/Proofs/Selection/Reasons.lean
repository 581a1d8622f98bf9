import DemandRouting.Proofs.Selection.Partition

namespace DemandRouting

-- The step that invites for a reason. A bypass belongs to none of them.
def InvitationReason.step : InvitationReason → Nat
  | .anchor => 0
  | .highScore => 1
  | .exploration => 1
  | .diversity => 2
  | .explorationSlot => 3
  | .bypass => 4

namespace Selection

variable {σ : Type} {settings : SelectionSettings} {anchors : List String}
  {scores : List ScoredBidder} {format : AdFormat} {invited : List Invitation}

-- Why `b` stands for a category behind the earlier invitations.
structure Represents (settings : SelectionSettings) (scores : List ScoredBidder)
    (format : AdFormat) (earlier : List Invitation) (category : String) (b : ScoredBidder) :
    Prop where
  required : category ∈ Categories.required format settings.diversityCategories
  isOf : settings.categories.ofBidder? b.bidder = some category
  missing : ∀ i ∈ earlier, i.category ≠ some category
  -- among all candidates, invited or not
  best : ∀ c ∈ scores, settings.categories.ofBidder? c.bidder = some category →
    c = b ∨ ScoredBidder.Outranks scores b c
  -- categories that were filled up before come first
  inTurn : ∀ i ∈ earlier, i.reason = .diversity → ∃ before, i.category = some before ∧
    [before, category].Sublist (Categories.required format settings.diversityCategories)

-- Why `b` is invited behind the earlier invitations.
structure Justified (settings : SelectionSettings) (anchors : List String)
    (scores : List ScoredBidder) (format : AdFormat) (earlier : List Invitation)
    (reason : InvitationReason) (b : ScoredBidder) : Prop where
  candidate : b ∈ scores
  warranted : Warrants settings reason b
  -- no step stands behind a later one
  inOrder : ∀ i ∈ earlier, i.reason.step ≤ reason.step
  anchor : reason = .anchor → b.bidder ∈ anchors.take settings.anchorCount.toNat
  -- high scorers, with luck or without, stand best first
  scorer : reason.step = 1 → ∀ i ∈ earlier, i.reason.step = 1 →
    ∃ c ∈ scores, i = .of settings i.reason c ∧ ScoredBidder.Outranks scores c b
  lucky : reason = .exploration → (settings.explorationRate == 0.0) = false
  category : reason = .diversity → ∃ category, Represents settings scores format earlier category b

-- Every invitation is one of a candidate, and justified where it stands.
def Truthful (settings : SelectionSettings) (anchors : List String) (scores : List ScoredBidder)
    (format : AdFormat) (invited : List Invitation) : Prop :=
  ∀ earlier i later, invited = earlier ++ i :: later →
    ∃ b, i = .of settings i.reason b ∧
      Justified settings anchors scores format earlier i.reason b

theorem truthful_nil : Truthful settings anchors scores format [] := by
  intro earlier i later heq
  simp at heq

theorem Truthful.invite {reason : InvitationReason} {b : ScoredBidder}
    (h : Truthful settings anchors scores format invited)
    (hb : Justified settings anchors scores format invited reason b) :
    Truthful settings anchors scores format (invited ++ [.of settings reason b]) := by
  intro earlier i later heq
  rcases later.eq_nil_or_concat with rfl | ⟨later, last, rfl⟩
  · obtain ⟨rfl, hlast⟩ := List.append_inj' heq rfl
    obtain rfl := List.singleton_inj.mp hlast
    exact ⟨b, rfl, hb⟩
  · rw [List.concat_eq_append, ← List.cons_append, ← List.append_assoc] at heq
    exact h earlier i later (List.append_inj' heq rfl).1

theorem withAnchors_truthful :
    Truthful settings anchors scores format
      (withAnchors settings (ScoredBidder.bestFirst scores) anchors) := by
  have hall : Truthful settings anchors scores format
        (withAnchors settings (ScoredBidder.bestFirst scores) anchors) ∧
      ∀ i ∈ withAnchors settings (ScoredBidder.bestFirst scores) anchors, i.reason = .anchor := by
    apply List.foldlRecOn (motive := fun invited => Truthful settings anchors scores format invited ∧
      ∀ i ∈ invited, i.reason = .anchor)
    · exact ⟨truthful_nil, by simp⟩
    · rintro invited ⟨h, hanchors⟩ anchor hanchor
      rcases addAnchor_cases settings (ScoredBidder.bestFirst scores) invited anchor with
        heq | ⟨b, hb, rfl, _, _, heq⟩
      · rw [heq]
        exact ⟨h, hanchors⟩
      · rw [heq]
        refine ⟨h.invite ?_, forall_mem_invite.mpr ⟨hanchors, rfl⟩⟩
        exact {
          candidate := ScoredBidder.mem_bestFirst.mp hb
          warranted := trivial
          inOrder := fun i hi => by rw [hanchors i hi]
          anchor := fun _ => hanchor
          scorer := nofun
          lucky := nofun
          category := nofun }
  exact hall.1

-- What is invited already stands before everyone in line.
def Ahead (settings : SelectionSettings) (scores line : List ScoredBidder)
    (invited : List Invitation) : Prop :=
  ∀ i ∈ invited, i.reason.step ≤ 1 ∧ (i.reason.step = 1 → ∃ c ∈ scores,
    i = .of settings i.reason c ∧ ∀ b ∈ line, ScoredBidder.Outranks scores c b)

theorem Ahead.next {b : ScoredBidder} {line : List ScoredBidder}
    (h : Ahead settings scores (b :: line) invited) : Ahead settings scores line invited := by
  intro i hi
  obtain ⟨hstep, hfrom⟩ := h i hi
  refine ⟨hstep, fun hscorer => ?_⟩
  obtain ⟨c, hc, heq, hline⟩ := hfrom hscorer
  exact ⟨c, hc, heq, fun b hb => hline b (List.mem_cons_of_mem _ hb)⟩

theorem Ahead.invite {b : ScoredBidder} {line : List ScoredBidder} {reason : InvitationReason}
    (h : Ahead settings scores (b :: line) invited) (hb : b ∈ scores) (hreason : reason.step = 1)
    (hline : ∀ c ∈ line, ScoredBidder.Outranks scores b c) :
    Ahead settings scores line (invited ++ [.of settings reason b]) :=
  forall_mem_invite.mpr ⟨h.next, Nat.le_of_eq hreason, fun _ => ⟨b, hb, rfl, hline⟩⟩

-- A bidder whose turn comes is passed by or invited as a high scorer, of low confidence only if
-- luck is possible.
theorem ScorerStep.next_cases {g : Generator σ} (hg : g.NonnegCoins) {b : ScoredBidder}
    {next : List Invitation} {s s' : σ} (h : ScorerStep g settings b invited s next s') :
    next = invited ∨ ∃ reason, next = invited ++ [.of settings reason b] ∧ reason.step = 1 ∧
      Warrants settings reason b ∧
      (reason = .exploration → (settings.explorationRate == 0.0) = false) := by
  cases h with
  | known => exact .inl rfl
  | below => exact .inl rfl
  | unlucky => exact .inl rfl
  | lucky _ hw hcoin =>
    refine .inr ⟨.exploration, rfl, rfl, hw, fun _ => ?_⟩
    rw [← Bool.not_eq_true]
    exact fun hzero => hcoin (Number.le_of_isZero (Number.isZero_of_beq hzero) (hg s))
  | high _ hw => exact .inr ⟨.highScore, rfl, rfl, hw, nofun⟩

theorem withScorers_truthful {g : Generator σ} (hg : g.NonnegCoins) {line : List ScoredBidder}
    (hline : line.Sublist (ScoredBidder.bestFirst scores))
    (h : Truthful settings anchors scores format invited)
    (hahead : Ahead settings scores line invited) (s : σ) :
    Truthful settings anchors scores format (withScorers g settings line invited s).1 := by
  induction line generalizing invited s with
  | nil => exact h
  | cons b line ih =>
    cases hfull : isFull settings invited with
    | true =>
      rw [withScorers_of_isFull g _ s hfull]
      exact h
    | false =>
      obtain ⟨next, s', hstep, heq⟩ := withScorers_cons g b line s hfull
      have hrest : line.Sublist (ScoredBidder.bestFirst scores) :=
        (List.sublist_cons_self b line).trans hline
      rw [heq]
      rcases hstep.next_cases hg with rfl | ⟨reason, rfl, hreason, hw, hlucky⟩
      · exact ih hrest h hahead.next s'
      · have hb : b ∈ scores := ScoredBidder.mem_bestFirst.mp (hline.subset (by simp))
        have hbehind : ∀ c ∈ line, ScoredBidder.Outranks scores b c := fun c hc =>
          ScoredBidder.outranks_of_sublist
            (((List.singleton_sublist.mpr hc).cons_cons b).trans hline)
        refine ih hrest (h.invite ?_) (hahead.invite hb hreason hbehind) s'
        exact {
          candidate := hb
          warranted := hw
          inOrder := fun i hi => hreason ▸ (hahead i hi).1
          anchor := fun hanchor => by rw [hanchor] at hreason; cases hreason
          scorer := fun _ i hi hscorer => by
            obtain ⟨c, hc, heq, hline⟩ := (hahead i hi).2 hscorer
            exact ⟨c, hc, heq, hline b (by simp)⟩
          lucky := hlucky
          category := fun hdiversity => by rw [hdiversity] at hreason; cases hreason }

-- The categories that were filled up come before those that are left.
def FilledBefore (required left : List String) (invited : List Invitation) : Prop :=
  ∀ i ∈ invited, i.reason = .diversity → ∃ before, i.category = some before ∧
    ∀ category ∈ left, [before, category].Sublist required

-- The search passes by nobody of a category that is missing.
theorem best_of_missing {category : String} {b : ScoredBidder}
    (hlabelled : Labelled settings invited) (hmissing : ∀ i ∈ invited, i.category ≠ some category)
    (hfind : (ScoredBidder.bestFirst scores).find? (fun c => !hasBidder invited c.bidder &&
      settings.categories.ofBidder? c.bidder == some category) = some b) :
    ∀ c ∈ scores, settings.categories.ofBidder? c.bidder = some category →
      c = b ∨ ScoredBidder.Outranks scores b c := by
  intro c hc hcategory
  obtain ⟨_, front, back, hranked, hfront⟩ := List.find?_eq_some_iff_append.mp hfind
  have hnew : hasBidder invited c.bidder = false := by
    rw [not_hasBidder_iff]
    intro hin
    obtain ⟨i, hi, hcode⟩ := List.mem_map.mp hin
    exact hmissing i hi (by rw [hlabelled i hi, hcode, hcategory])
  have hmem : c ∈ front ++ b :: back := hranked ▸ ScoredBidder.mem_bestFirst.mpr hc
  rcases List.mem_append.mp hmem with hin | hin
  · have hpassed := hfront c hin
    simp [hnew, hcategory] at hpassed
  · rcases List.mem_cons.mp hin with rfl | hin
    · exact .inl rfl
    · right
      apply ScoredBidder.outranks_of_sublist
      rw [hranked]
      exact ((List.singleton_sublist.mpr hin).cons_cons b).trans (List.sublist_append_right _ _)

theorem foldl_addCategory_truthful {left : List String}
    (hleft : left.Sublist (Categories.required format settings.diversityCategories))
    (h : Truthful settings anchors scores format invited) (hlabelled : Labelled settings invited)
    (hsteps : ∀ i ∈ invited, i.reason.step ≤ 2)
    (hfilled : FilledBefore (Categories.required format settings.diversityCategories) left
      invited) :
    Truthful settings anchors scores format
      (left.foldl (addCategory settings (ScoredBidder.bestFirst scores)) invited) := by
  induction left generalizing invited with
  | nil => exact h
  | cons category left ih =>
    rw [List.foldl_cons]
    have hrest : left.Sublist (Categories.required format settings.diversityCategories) :=
      (List.sublist_cons_self category left).trans hleft
    have hnext : FilledBefore (Categories.required format settings.diversityCategories) left
        invited := by
      intro i hi hdiversity
      obtain ⟨before, hbefore, hall⟩ := hfilled i hi hdiversity
      exact ⟨before, hbefore, fun c hc => hall c (List.mem_cons_of_mem _ hc)⟩
    rcases addCategory_cases settings (ScoredBidder.bestFirst scores) invited category with
      heq | ⟨b, _, hmissing, hfind, heq⟩
    · rw [heq]
      exact ih hrest h hlabelled hsteps hnext
    · have hb := List.mem_of_find?_eq_some hfind
      have hchosen := List.find?_some hfind
      rw [Bool.and_eq_true, beq_iff_eq] at hchosen
      rw [heq]
      apply ih hrest
      · exact h.invite {
          candidate := ScoredBidder.mem_bestFirst.mp hb
          warranted := by simp only [Warrants, hchosen.2, Option.isSome_some]
          inOrder := hsteps
          anchor := nofun
          scorer := nofun
          lucky := nofun
          category := fun _ => ⟨category, {
            required := hleft.subset (by simp)
            isOf := hchosen.2
            missing := hmissing
            best := best_of_missing hlabelled hmissing hfind
            inTurn := fun i hi hdiversity => by
              obtain ⟨before, hbefore, hall⟩ := hfilled i hi hdiversity
              exact ⟨before, hbefore, hall category (by simp)⟩ }⟩ }
      · exact forall_mem_invite.mpr ⟨hlabelled, rfl⟩
      · exact forall_mem_invite.mpr ⟨hsteps, Nat.le_refl 2⟩
      · exact forall_mem_invite.mpr ⟨hnext, fun _ => ⟨category, hchosen.2, fun c hc =>
          ((List.singleton_sublist.mpr hc).cons_cons category).trans hleft⟩⟩

theorem Truthful.invite_slots {picks : List ScoredBidder}
    (h : Truthful settings anchors scores format invited)
    (hsteps : ∀ i ∈ invited, i.reason.step ≤ 3)
    (hpicks : ∀ b ∈ picks, b ∈ scores ∧ Warrants settings .explorationSlot b) :
    Truthful settings anchors scores format
      (invited ++ picks.map (.of settings .explorationSlot)) := by
  induction picks generalizing invited with
  | nil => simpa using h
  | cons b picks ih =>
    obtain ⟨⟨hb, hw⟩, hrest⟩ := List.forall_mem_cons.mp hpicks
    rw [List.map_cons, List.append_cons]
    refine ih (h.invite ?_) (forall_mem_invite.mpr ⟨hsteps, Nat.le_refl 3⟩) hrest
    exact {
      candidate := hb
      warranted := hw
      inOrder := hsteps
      anchor := nofun
      scorer := nofun
      lucky := nofun
      category := nofun }

-- Steps of what is invited for the given reasons.
theorem Grows.step_le {ranked : List ScoredBidder} {reasons : List InvitationReason} {n : Nat}
    (h : Grows settings ranked reasons [] invited) (hn : ∀ reason ∈ reasons, reason.step ≤ n) :
    ∀ i ∈ invited, i.reason.step ≤ n := by
  intro i hi
  rcases h.mem hi with hnone | ⟨reason, hreason, b, _, _, rfl⟩
  · cases hnone
  · exact hn reason hreason

section Stages

variable {g : Generator σ} (hg : g.NonnegCoins) (settings : SelectionSettings)
  (anchors : List String) (scores : List ScoredBidder) (format : AdFormat) (s : σ)

include hg

theorem scored_truthful :
    Truthful settings anchors scores format (scored g settings anchors scores s).1 := by
  apply withScorers_truthful hg (List.Sublist.refl _) withAnchors_truthful
  intro i hi
  have hstep := (withAnchors_grows anchors).step_le (n := 0) (by decide) i hi
  exact ⟨by omega, fun hscorer => by omega⟩

theorem covered_truthful :
    Truthful settings anchors scores format (covered g settings anchors scores format s) := by
  have hgrows := scored_grows g settings anchors scores s
  have hsteps := hgrows.step_le (n := 1) (by decide)
  unfold covered withCategories
  split
  · apply foldl_addCategory_truthful (List.Sublist.refl _) (scored_truthful hg _ _ _ _ s)
    · exact hgrows.labelled (by simp [Labelled])
    · exact fun i hi => (hsteps i hi).trans (by decide)
    · intro i hi hdiversity
      have hstep := hsteps i hi
      rw [hdiversity] at hstep
      exact absurd hstep (by decide)
  · exact scored_truthful hg _ _ _ _ s

theorem invite_truthful :
    Truthful settings anchors scores format (invite g settings anchors scores format s).1 := by
  rw [invite_eq, withSlots_eq_drawn]
  apply (covered_truthful hg settings anchors scores format s).invite_slots
  · exact (covered_grows_empty g settings anchors scores format s).step_le (by decide)
  · intro b hb
    obtain ⟨hranked, _, hlow⟩ := mem_pool.mp (drawn_subset_pool g _ _ hb)
    exact ⟨ScoredBidder.mem_bestFirst.mp hranked, hlow⟩

end Stages

-- This needs neither different codes nor lawful samples.
theorem choose_truthful (g : Generator σ) (hg : g.NonnegCoins) (settings : SelectionSettings)
    (source : Option AnchorSource) (scores : List ScoredBidder) (o : Opportunity) (s : σ)
    (hbypass : settings.bypass = false) (hshadow : settings.shadow = false) :
    Truthful settings (anchorsOf settings source scores o) scores o.format
      (choose g settings source scores o s).1.invited := by
  rw [choose_eq_normal g source scores o s hbypass hshadow]
  exact invite_truthful hg settings _ scores o.format s

theorem choose_truthful_fewCandidates :
    Stream.generator.NonnegCoins ∧
      Truthful { maxBidders := 2 } (anchorsOf { maxBidders := 2 }
          (some (Anchors.fixed .empty ["acme", "nobody", "acme"])) fewCandidates (.atTime ⟨0, 0⟩))
        fewCandidates (Opportunity.atTime ⟨0, 0⟩).format
        (choose Stream.generator { maxBidders := 2 }
          (some (Anchors.fixed .empty ["acme", "nobody", "acme"])) fewCandidates
          (.atTime ⟨0, 0⟩) (.ofSeed 7)).1.invited :=
  ⟨Stream.generator_nonnegCoins,
    choose_truthful Stream.generator Stream.generator_nonnegCoins _ _ _ _ _ rfl rfl⟩

end Selection
end DemandRouting
