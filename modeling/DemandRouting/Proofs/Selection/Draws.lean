import DemandRouting.Proofs.Draws.Sample
import DemandRouting.Proofs.Selection.Partition

namespace DemandRouting

variable {σ : Type}

-- A draw and what came of it.
inductive Draw where
  | coin (value : Float)
  | sample (length amount : Nat) (places : List Nat)
deriving DecidableEq

-- The draws of `g`, each written down behind the earlier ones.
def Generator.recorded (g : Generator σ) : Generator (σ × List Draw) where
  coin s := ((g.coin s.1).1, (g.coin s.1).2, s.2 ++ [.coin (g.coin s.1).1])
  sample length amount s :=
    ((g.sample length amount s.1).1, (g.sample length amount s.1).2,
      s.2 ++ [.sample length amount (g.sample length amount s.1).1])

theorem SelectionSettings.between_of_mem_fractions {settings : SelectionSettings}
    (h : settings.validate = .ok ()) : ∀ f ∈ settings.fractions, Number.Between 0.0 1.0 f.2 := by
  intro f hf
  unfold validate at h
  split at h
  · cases h
  split at h
  · cases h
  split at h
  · cases h
  split at h
  · cases h
  · rename_i hnone
    have hrange := List.find?_eq_none.mp hnone f hf
    rw [Bool.not_eq_true, Bool.not_eq_false', inRange, Bool.and_eq_true, decide_eq_true_eq,
      decide_eq_true_eq] at hrange
    exact .of_le hrange.1 hrange.2

namespace Selection

variable {settings : SelectionSettings} {ranked : List ScoredBidder} {invited : List Invitation}

def unrecorded {α : Type} (r : α × (σ × List Draw)) : α × σ := (r.1, r.2.1)

theorem withScorers_recorded (g : Generator σ) (line : List ScoredBidder)
    (invited : List Invitation) (s : σ × List Draw) :
    unrecorded (withScorers g.recorded settings line invited s) =
      withScorers g settings line invited s.1 := by
  induction line generalizing invited s with
  | nil => rfl
  | cons b line ih =>
    simp only [withScorers]
    split
    · rfl
    split
    · exact ih _ _
    split
    · split
      · rename_i hcoin
        exact (ih _ _).trans (if_pos hcoin).symm
      · rename_i hcoin
        exact (ih _ _).trans (if_neg hcoin).symm
    · exact ih _ _

theorem withSlots_recorded (g : Generator σ) (invited : List Invitation) (s : σ × List Draw) :
    unrecorded (withSlots g.recorded settings ranked invited s) =
      withSlots g settings ranked invited s.1 := by
  simp only [withSlots]
  split <;> rfl

theorem choose_recorded (g : Generator σ) (settings : SelectionSettings)
    (source : Option AnchorSource) (scores : List ScoredBidder) (o : Opportunity)
    (s : σ × List Draw) :
    unrecorded (choose g.recorded settings source scores o s) =
      choose g settings source scores o s.1 := by
  have hinvite : unrecorded (invite g.recorded settings (anchorsOf settings source scores o) scores
      o.format s) = invite g settings (anchorsOf settings source scores o) scores o.format s.1 := by
    rw [invite_eq, invite_eq, withSlots_recorded]
    unfold covered scored
    rw [← withScorers_recorded]
    rfl
  unfold choose
  split
  · rfl
  · simp only [normal]
    rw [← hinvite]
    rfl

-- A candidate's turn in the line of high scorers, with the coin that was drawn and the reason that
-- the candidate was invited for.
structure Turn where
  candidate : ScoredBidder
  coin : Option Float
  reason : Option InvitationReason

def Turn.invitation? (settings : SelectionSettings) (t : Turn) : Option Invitation :=
  t.reason.map fun reason => .of settings reason t.candidate

def Turn.draw? (t : Turn) : Option Draw := t.coin.map .coin

-- What is left to ask of a candidate is its confidence.
structure Eligible (settings : SelectionSettings) (invited : List Invitation) (b : ScoredBidder) :
    Prop where
  room : invited.length < settings.maxBidders.toNat
  unknown : b.bidder ∉ invited.map (·.bidder)
  score : ¬ b.total < settings.minScore

-- A turn as it should be behind the earlier invitations.
structure Turn.Fits (settings : SelectionSettings) (invited : List Invitation) (t : Turn) :
    Prop where
  coin : t.coin.isSome = true ↔
    Eligible settings invited t.candidate ∧ t.candidate.confidence < settings.lowConfidence
  exploration : t.reason = some .exploration ↔ ∃ x, t.coin = some x ∧ x < settings.explorationRate
  highScore : t.reason = some .highScore ↔
    Eligible settings invited t.candidate ∧ ¬ t.candidate.confidence < settings.lowConfidence
  only : t.reason.all fun reason => reason = .exploration || reason = .highScore

-- Every turn fits behind what was invited before the turns and in the earlier ones.
def TakesTurns (settings : SelectionSettings) (invited : List Invitation) (turns : List Turn) :
    Prop :=
  ∀ earlier t later, turns = earlier ++ t :: later →
    t.Fits settings (invited ++ earlier.filterMap (Turn.invitation? settings))

theorem takesTurns_nil : TakesTurns settings invited [] := by
  intro earlier t later heq
  simp at heq

theorem TakesTurns.cons {t : Turn} {turns : List Turn} (ht : t.Fits settings invited)
    (h : TakesTurns settings (invited ++ (t.invitation? settings).toList) turns) :
    TakesTurns settings invited (t :: turns) := by
  intro earlier u later heq
  cases earlier with
  | nil =>
    obtain ⟨rfl, rfl⟩ := List.cons.inj heq
    simpa using ht
  | cons first earlier =>
    obtain ⟨rfl, hrest⟩ := List.cons.inj heq
    have hfits := h earlier u later hrest
    rw [List.append_assoc] at hfits
    cases hinvitation : t.invitation? settings <;> simpa [hinvitation] using hfits

-- Whoever is not eligible is passed by.
theorem fits_passed {b : ScoredBidder} (h : ¬ Eligible settings invited b) :
    Turn.Fits settings invited ⟨b, none, none⟩ where
  coin := by simp [h]
  exploration := by simp
  highScore := by simp [h]
  only := rfl

-- The run `r` is a turn of the candidate `b`, and then the run along the rest of the line.
def StartsWithTurn (g : Generator σ) (settings : SelectionSettings) (b : ScoredBidder)
    (line : List ScoredBidder) (invited : List Invitation) (draws : List Draw)
    (r : List Invitation × (σ × List Draw)) : Prop :=
  ∃ t : Turn, t.candidate = b ∧ t.Fits settings invited ∧ ∃ s',
    r = withScorers g.recorded settings line (invited ++ (t.invitation? settings).toList)
      (s', draws ++ t.draw?.toList)

theorem startsWithTurn_passed {g : Generator σ} {b : ScoredBidder} {line : List ScoredBidder}
    {s : σ} {draws : List Draw} (h : ¬ Eligible settings invited b) :
    StartsWithTurn g settings b line invited draws
      (withScorers g.recorded settings line invited (s, draws)) := by
  refine ⟨⟨b, none, none⟩, rfl, fits_passed h, s, ?_⟩
  simp [Turn.invitation?, Turn.draw?]

-- The next in line has a turn whether or not there is room.
theorem withScorers_turn {g : Generator σ} (hg : g.NonnegCoins)
    (hrate : settings.explorationRate.isNaN = false) (b : ScoredBidder) (line : List ScoredBidder)
    (invited : List Invitation) (s : σ) (draws : List Draw) :
    StartsWithTurn g settings b line invited draws
      (withScorers g.recorded settings (b :: line) invited (s, draws)) := by
  cases hfull : isFull settings invited with
  | true =>
    have hnot : ¬ Eligible settings invited b := fun h =>
      Nat.lt_irrefl _ (h.room.trans_le (isFull_iff.mp hfull))
    rw [withScorers_of_isFull _ _ _ hfull,
      ← withScorers_of_isFull g.recorded line (s, draws) hfull]
    exact startsWithTurn_passed hnot
  | false =>
    obtain ⟨next, s', hstep, heq⟩ := withScorers_cons g.recorded b line (s, draws) hfull
    rw [heq]
    have hroom := not_isFull_iff.mp hfull
    cases hstep with
    | known hknown => exact startsWithTurn_passed fun h => h.unknown (hasBidder_iff.mp hknown)
    | below hbelow => exact startsWithTurn_passed fun h => h.score hbelow
    | unlucky hnew hw hcoin =>
      have h : Eligible settings invited b := ⟨hroom, not_hasBidder_iff.mp hnew, hw.1⟩
      refine ⟨⟨b, some (g.coin s).1, none⟩, rfl, ?_, (g.coin s).2, ?_⟩
      · have hluck : ¬ (g.coin s).1 < settings.explorationRate :=
          (Number.not_lt_iff (Number.isNaN_of_le (hg s)).2 hrate).mpr hcoin
        constructor <;> simp [h, hw.2, hluck]
      · simp [Turn.invitation?, Turn.draw?, Generator.recorded]
    | lucky hnew hw hcoin =>
      have h : Eligible settings invited b := ⟨hroom, not_hasBidder_iff.mp hnew, hw.1⟩
      refine ⟨⟨b, some (g.coin s).1, some .exploration⟩, rfl, ?_, (g.coin s).2, ?_⟩
      · have hluck : (g.coin s).1 < settings.explorationRate :=
          (Number.not_le_iff hrate (Number.isNaN_of_le (hg s)).2).mp hcoin
        constructor <;> simp [h, hw.2, hluck]
      · simp [Turn.invitation?, Turn.draw?, Generator.recorded]
    | high hnew hw =>
      have h : Eligible settings invited b := ⟨hroom, not_hasBidder_iff.mp hnew, hw.1⟩
      refine ⟨⟨b, none, some .highScore⟩, rfl, ?_, s, ?_⟩
      · constructor <;> simp [h, hw.2]
      · simp [Turn.invitation?, Turn.draw?]

theorem withScorers_takesTurns {g : Generator σ} (hg : g.NonnegCoins)
    (hrate : settings.explorationRate.isNaN = false) (line : List ScoredBidder)
    (invited : List Invitation) (s : σ) (draws : List Draw) :
    ∃ turns : List Turn, turns.map (·.candidate) = line ∧ TakesTurns settings invited turns ∧
      (withScorers g.recorded settings line invited (s, draws)).1 =
        invited ++ turns.filterMap (Turn.invitation? settings) ∧
      (withScorers g.recorded settings line invited (s, draws)).2.2 =
        draws ++ turns.filterMap Turn.draw? := by
  induction line generalizing invited s draws with
  | nil => exact ⟨[], rfl, takesTurns_nil, by simp [withScorers], by simp [withScorers]⟩
  | cons b line ih =>
    obtain ⟨t, rfl, ht, s', heq⟩ := withScorers_turn hg hrate b line invited s draws
    obtain ⟨turns, rfl, hturns, hinvited, hdraws⟩ :=
      ih (invited ++ (t.invitation? settings).toList) s' (draws ++ t.draw?.toList)
    refine ⟨t :: turns, rfl, .cons ht hturns, ?_, ?_⟩
    · rw [heq, hinvited]
      cases hinvitation : t.invitation? settings <;> simp [hinvitation]
    · rw [heq, hdraws]
      cases hdraw : t.draw? <;> simp [hdraw]

-- What is drawn for the exploration slots, and who is invited for it: nothing where there is no
-- slot, no room or nobody to draw, else one sample.
inductive Sampled (settings : SelectionSettings) (ranked : List ScoredBidder)
    (invited : List Invitation) : List Draw → List Invitation → Prop
  | none :
      min (min settings.explorationSlots.toNat (settings.maxBidders.toNat - invited.length))
        (pool settings ranked invited).length = 0 →
      Sampled settings ranked invited [] []
  | once {amount : Nat} (places : List Nat) :
      amount = min (min settings.explorationSlots.toNat
        (settings.maxBidders.toNat - invited.length)) (pool settings ranked invited).length →
      0 < amount →
      Sampled settings ranked invited
        [.sample (pool settings ranked invited).length amount places]
        ((atPlaces places (pool settings ranked invited)).map (.of settings .explorationSlot))

theorem withSlots_sampled (g : Generator σ) (settings : SelectionSettings)
    (ranked : List ScoredBidder) (invited : List Invitation) (s : σ × List Draw) :
    ∃ draws slotted, Sampled settings ranked invited draws slotted ∧
      (withSlots g.recorded settings ranked invited s).1 = invited ++ slotted ∧
      (withSlots g.recorded settings ranked invited s).2.2 = s.2 ++ draws := by
  unfold withSlots
  dsimp only
  split
  · rename_i hzero
    exact ⟨[], [], .none hzero, by simp, by simp⟩
  · rename_i hpositive
    exact ⟨_, _, .once _ rfl (Nat.pos_of_ne_zero hpositive), rfl, rfl⟩

-- An account of what was drawn: the turns, which the coins belong to, the sample, whom it invites,
-- and who is passed on besides.
structure DrawAccount where
  turns : List Turn
  sampled : List Draw
  slotted : List Invitation
  passed : List Invitation

namespace DrawAccount

-- The invitations before anything is sampled.
def covered (a : DrawAccount) (settings : SelectionSettings) (anchors : List String)
    (scores : List ScoredBidder) (format : AdFormat) : List Invitation :=
  withCategories settings (ScoredBidder.bestFirst scores) format
    (withAnchors settings (ScoredBidder.bestFirst scores) anchors ++
      a.turns.filterMap (Turn.invitation? settings))

-- The account accounts for all invitations and for all draws in their order.
structure Explains (a : DrawAccount) (settings : SelectionSettings) (anchors : List String)
    (scores : List ScoredBidder) (format : AdFormat) (invited : List Invitation)
    (draws : List Draw) : Prop where
  line : a.turns.map (·.candidate) = ScoredBidder.bestFirst scores
  turns : TakesTurns settings (withAnchors settings (ScoredBidder.bestFirst scores) anchors) a.turns
  sample : Sampled settings (ScoredBidder.bestFirst scores)
    (a.covered settings anchors scores format) a.sampled a.slotted
  draws : draws = a.turns.filterMap Turn.draw? ++ a.sampled
  invited : invited = a.covered settings anchors scores format ++ a.slotted ++ a.passed
  passed : ∀ i ∈ a.passed, i.reason = .bypass

end DrawAccount

theorem invite_explained {g : Generator σ} (hg : g.NonnegCoins)
    (hrate : settings.explorationRate.isNaN = false) (anchors : List String)
    (scores : List ScoredBidder) (format : AdFormat) (s : σ) {passed : List Invitation}
    (hpassed : ∀ i ∈ passed, i.reason = .bypass) :
    ∃ a : DrawAccount, a.Explains settings anchors scores format
      ((invite g.recorded settings anchors scores format (s, [])).1 ++ passed)
      (invite g.recorded settings anchors scores format (s, [])).2.2 := by
  obtain ⟨turns, hline, hturns, hinvited, hdraws⟩ :=
    withScorers_takesTurns hg hrate (ScoredBidder.bestFirst scores)
      (withAnchors settings (ScoredBidder.bestFirst scores) anchors) s []
  obtain ⟨sampled, slotted, hsampled, hslotted, hlast⟩ :=
    withSlots_sampled g settings (ScoredBidder.bestFirst scores)
      (covered g.recorded settings anchors scores format (s, []))
      (scored g.recorded settings anchors scores (s, [])).2
  have hcovered : covered g.recorded settings anchors scores format (s, []) =
      (DrawAccount.mk turns sampled slotted passed).covered settings anchors scores format := by
    rw [covered, scored, hinvited]
    rfl
  rw [hcovered] at hsampled hslotted hlast
  refine ⟨⟨turns, sampled, slotted, passed⟩, hline, hturns, hsampled, ?_, ?_, hpassed⟩
  · rw [invite_eq, hcovered, hlast, scored, hdraws, List.nil_append]
  · rw [invite_eq, hcovered, hslotted]

theorem withSlots_of_confident (g : Generator σ)
    (h : ∀ b ∈ ranked, ¬ b.confidence < settings.slotConfidence) (invited : List Invitation)
    (s : σ) : withSlots g settings ranked invited s = (invited, s) := by
  have hpool : pool settings ranked invited = [] := by
    rw [List.eq_nil_iff_forall_not_mem]
    intro b hb
    obtain ⟨hranked, _, hlow⟩ := mem_pool.mp hb
    exact h b hranked hlow
  simp [withSlots, slots, hpool]

-- Without a candidate of low confidence, nothing is drawn, and the draws do not matter.
theorem choose_of_confident (g : Generator σ) (source : Option AnchorSource)
    {scores : List ScoredBidder} (o : Opportunity)
    (h : ∀ b ∈ scores, ¬ b.confidence < settings.lowConfidence ∧
      ¬ b.confidence < settings.slotConfidence) (s s' : σ) :
    choose g settings source scores o s' = ((choose g settings source scores o s).1, s') := by
  have hlow : ∀ b ∈ ScoredBidder.bestFirst scores, ¬ b.confidence < settings.lowConfidence :=
    fun b hb => (h b (ScoredBidder.mem_bestFirst.mp hb)).1
  have hslot : ∀ b ∈ ScoredBidder.bestFirst scores, ¬ b.confidence < settings.slotConfidence :=
    fun b hb => (h b (ScoredBidder.mem_bestFirst.mp hb)).2
  unfold choose
  split
  · rfl
  · simp only [normal, invite_eq, withSlots_of_confident g hslot, covered, scored,
      withScorers_of_confident g hlow]

theorem choose_explained {g : Generator σ} (hg : g.NonnegCoins)
    (hrate : settings.explorationRate.isNaN = false) (source : Option AnchorSource)
    (scores : List ScoredBidder) (o : Opportunity) (s : σ) (hbypass : settings.bypass = false) :
    ∃ a : DrawAccount, a.Explains settings (anchorsOf settings source scores o) scores o.format
      (choose g.recorded settings source scores o (s, [])).1.invited
      (choose g.recorded settings source scores o (s, [])).2.2 := by
  simp only [choose, hbypass, Bool.false_eq_true, ite_false, normal]
  split
  · -- shadow mode passes on the excluded, and draws nothing for it
    apply invite_explained hg hrate _ scores o.format s
    intro i hi
    obtain ⟨b, _, rfl⟩ := List.mem_map.mp hi
    rfl
  · have hnobody : ∀ i ∈ ([] : List Invitation), i.reason = .bypass :=
      List.forall_mem_nil _
    obtain ⟨a, ha⟩ := invite_explained hg hrate (anchorsOf settings source scores o) scores
      o.format s hnobody
    rw [List.append_nil] at ha
    exact ⟨a, ha⟩

-- The record shows that draws are made to decide about candidates, in order, and for nothing else.
theorem choose_draws (g : Generator σ) (hg : g.NonnegCoins) (settings : SelectionSettings)
    (hvalid : settings.validate = .ok ()) (source : Option AnchorSource)
    (scores : List ScoredBidder) (o : Opportunity) (s : σ) :
    let run := choose g.recorded settings source scores o (s, [])
    unrecorded run = choose g settings source scores o s ∧
      (settings.bypass = true → run.2 = (s, [])) ∧
      (settings.bypass = false → ∃ a : DrawAccount,
        a.Explains settings (anchorsOf settings source scores o) scores o.format run.1.invited
          run.2.2) ∧
      ((∀ b ∈ scores, ¬ b.confidence < settings.lowConfidence ∧
          ¬ b.confidence < settings.slotConfidence) →
        run.2.2 = [] ∧ ∀ s', choose g settings source scores o s' =
          ((choose g settings source scores o s).1, s')) := by
  intro run
  have hrate : settings.explorationRate.isNaN = false :=
    (SelectionSettings.between_of_mem_fractions hvalid ("exploration_rate", _) (by
      simp [SelectionSettings.fractions])).number
  refine ⟨choose_recorded g settings source scores o (s, []), fun hbypass => ?_,
    choose_explained hg hrate source scores o s, fun hconfident => ⟨?_, ?_⟩⟩
  · simp only [run, choose, hbypass, ite_true]
  · have hrun := choose_of_confident g.recorded source o hconfident (s, []) (s, [])
    exact congrArg (·.2.2) hrun
  · exact choose_of_confident g source o hconfident s

-- Two candidates of low confidence in line, and a selection without any.
theorem choose_draws_fewCandidates :
    let settings : SelectionSettings := { maxBidders := 2, slotConfidence := 0.3 }
    let sure : List ScoredBidder := [⟨"teads", 70.0, .all 0.0, 0.4, none, 0⟩]
    let o : Opportunity := .atTime ⟨0, 0⟩
    let run := choose Stream.generator.recorded settings none fewCandidates o (.ofSeed 7, [])
    Stream.generator.NonnegCoins ∧ settings.validate = .ok () ∧
      (∃ a : DrawAccount, a.Explains settings (anchorsOf settings none fewCandidates o)
        fewCandidates o.format run.1.invited run.2.2) ∧
      choose Stream.generator settings none sure o (.ofSeed 8) =
        ((choose Stream.generator settings none sure o (.ofSeed 7)).1, .ofSeed 8) := by
  intro settings sure o run
  have hvalid : settings.validate = .ok () := by decide
  have hsure : ∀ b ∈ sure, ¬ b.confidence < settings.lowConfidence ∧
      ¬ b.confidence < settings.slotConfidence := by
    decide
  obtain ⟨-, -, hexplained, -⟩ := choose_draws Stream.generator Stream.generator_nonnegCoins
    settings hvalid none fewCandidates o (.ofSeed 7)
  obtain ⟨-, -, -, hseeds⟩ := choose_draws Stream.generator Stream.generator_nonnegCoins settings
    hvalid none sure o (.ofSeed 7)
  have hbypass : settings.bypass = false := rfl
  have haccount := hexplained hbypass
  have hnothing := hseeds hsure
  refine ⟨Stream.generator_nonnegCoins, hvalid, ?_, hnothing.2 (.ofSeed 8)⟩
  with_reducible exact haccount

end Selection
end DemandRouting
