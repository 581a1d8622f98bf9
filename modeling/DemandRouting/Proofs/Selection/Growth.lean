import DemandRouting.Proofs.Selection.Ranking
import DemandRouting.Selection.Choice
import Mathlib.Data.List.Perm.Subperm

namespace DemandRouting.Selection

variable {σ : Type} {settings : SelectionSettings} {ranked : List ScoredBidder}

theorem isFull_iff {invited : List Invitation} :
    isFull settings invited = true ↔ settings.maxBidders.toNat ≤ invited.length := by
  simp only [isFull, decide_eq_true_eq]

theorem not_isFull_iff {invited : List Invitation} :
    isFull settings invited = false ↔ invited.length < settings.maxBidders.toNat := by
  simp only [isFull, decide_eq_false_iff_not, Nat.not_le]

theorem hasBidder_iff {invited : List Invitation} {bidder : String} :
    hasBidder invited bidder = true ↔ bidder ∈ invited.map (·.bidder) := by
  simp [hasBidder]

theorem not_hasBidder_iff {invited : List Invitation} {bidder : String} :
    hasBidder invited bidder = false ↔ bidder ∉ invited.map (·.bidder) := by
  rw [← hasBidder_iff, Bool.not_eq_true]

theorem forall_mem_invite {P : Invitation → Prop} {invited : List Invitation}
    {reason : InvitationReason} {b : ScoredBidder} :
    (∀ i ∈ invited ++ [.of settings reason b], P i) ↔
      (∀ i ∈ invited, P i) ∧ P (.of settings reason b) := by
  rw [List.forall_mem_append, List.forall_mem_singleton]

theorem map_bidder_of (settings : SelectionSettings) (reason : InvitationReason)
    (picks : List ScoredBidder) :
    (picks.map (Invitation.of settings reason)).map (·.bidder) = picks.map (·.bidder) :=
  List.map_map

-- What a bidder shows by itself when it is invited for a reason.
def Warrants (settings : SelectionSettings) : InvitationReason → ScoredBidder → Prop
  | .anchor, _ => True
  | .highScore, b => ¬ b.total < settings.minScore ∧ ¬ b.confidence < settings.lowConfidence
  | .exploration, b => ¬ b.total < settings.minScore ∧ b.confidence < settings.lowConfidence
  | .diversity, b => (settings.categories.ofBidder? b.bidder).isSome
  | .explorationSlot, b => b.confidence < settings.slotConfidence
  | .bypass, _ => False

-- From `before`, by further invitations for the given reasons only.
inductive Grows (settings : SelectionSettings) (ranked : List ScoredBidder)
    (reasons : List InvitationReason) (before : List Invitation) : List Invitation → Prop
  | refl : Grows settings ranked reasons before before
  | invite {after : List Invitation} {reason : InvitationReason} {b : ScoredBidder} :
      Grows settings ranked reasons before after →
      isFull settings after = false → b ∈ ranked → hasBidder after b.bidder = false →
      reason ∈ reasons → Warrants settings reason b →
      Grows settings ranked reasons before (after ++ [.of settings reason b])

-- Invitations name the category of their bidder.
def Labelled (settings : SelectionSettings) (invited : List Invitation) : Prop :=
  ∀ i ∈ invited, i.category = settings.categories.ofBidder? i.bidder

namespace Grows

variable {reasons reasons' : List InvitationReason} {before middle after : List Invitation}

theorem trans (h₁ : Grows settings ranked reasons before middle)
    (h₂ : Grows settings ranked reasons middle after) :
    Grows settings ranked reasons before after := by
  induction h₂ with
  | refl => exact h₁
  | invite _ hroom hb hnew hr hw ih => exact ih.invite hroom hb hnew hr hw

theorem mono (hsub : reasons ⊆ reasons') (h : Grows settings ranked reasons before after) :
    Grows settings ranked reasons' before after := by
  induction h with
  | refl => exact .refl
  | invite _ hroom hb hnew hr hw ih => exact ih.invite hroom hb hnew (hsub hr) hw

theorem foldl {α : Type} {step : List Invitation → α → List Invitation}
    (hstep : ∀ invited a, Grows settings ranked reasons invited (step invited a))
    (as : List α) (invited : List Invitation) :
    Grows settings ranked reasons invited (as.foldl step invited) := by
  induction as generalizing invited with
  | nil => exact .refl
  | cons a as ih => exact (hstep invited a).trans (ih _)

theorem isPrefix (h : Grows settings ranked reasons before after) : before <+: after := by
  induction h with
  | refl => exact List.prefix_rfl
  | invite _ _ _ _ _ _ ih => exact ih.trans (List.prefix_append _ _)

-- What is added is added for the given reasons.
theorem exists_append (h : Grows settings ranked reasons before after) :
    ∃ added, after = before ++ added ∧ ∀ i ∈ added, i.reason ∈ reasons := by
  induction h with
  | refl => exact ⟨[], (List.append_nil _).symm, List.forall_mem_nil _⟩
  | @invite _ reason b _ _ _ _ hr _ ih =>
    obtain ⟨added, rfl, hadded⟩ := ih
    refine ⟨added ++ [.of settings reason b], List.append_assoc _ _ _, ?_⟩
    exact forall_mem_invite.mpr ⟨hadded, hr⟩

theorem nodup (h : Grows settings ranked reasons before after)
    (hbefore : (before.map (·.bidder)).Nodup) : (after.map (·.bidder)).Nodup := by
  induction h with
  | refl => exact hbefore
  | invite _ _ _ hnew _ _ ih =>
    rw [List.map_append, List.nodup_append_comm]
    exact ih.cons (not_hasBidder_iff.mp hnew)

theorem length_le (h : Grows settings ranked reasons before after)
    (hbefore : before.length ≤ settings.maxBidders.toNat) :
    after.length ≤ settings.maxBidders.toNat := by
  induction h with
  | refl => exact hbefore
  | invite _ hroom _ _ _ _ _ =>
    rw [not_isFull_iff] at hroom
    simp only [List.length_append, List.length_singleton]
    omega

-- Where every invitation comes from.
theorem mem (h : Grows settings ranked reasons before after) {i : Invitation} (hi : i ∈ after) :
    i ∈ before ∨ ∃ reason ∈ reasons, ∃ b ∈ ranked,
      Warrants settings reason b ∧ i = .of settings reason b := by
  induction h with
  | refl => exact .inl hi
  | invite _ _ hb _ hr hw ih =>
    rcases List.mem_append.mp hi with hi | hi
    · exact ih hi
    · exact .inr ⟨_, hr, _, hb, hw, List.mem_singleton.mp hi⟩

theorem labelled (h : Grows settings ranked reasons before after)
    (hbefore : Labelled settings before) : Labelled settings after := by
  intro i hi
  rcases h.mem hi with hi | ⟨reason, _, b, _, _, rfl⟩
  · exact hbefore i hi
  · rfl

theorem hasBidder_mono (h : Grows settings ranked reasons before after) {bidder : String}
    (hout : hasBidder after bidder = false) : hasBidder before bidder = false := by
  rw [not_hasBidder_iff] at hout ⊢
  exact fun hin => hout (h.isPrefix.sublist.map _ |>.subset hin)

-- Nobody is invited beyond the cap.
theorem eq_of_isFull (h : Grows settings ranked reasons before after)
    (hfull : isFull settings before = true) : after = before := by
  induction h with
  | refl => rfl
  | invite _ hroom _ _ _ _ ih =>
    rw [ih, hfull] at hroom
    cases hroom

theorem not_isFull (h : Grows settings ranked reasons before after)
    (hroom : isFull settings after = false) : isFull settings before = false := by
  rw [not_isFull_iff] at hroom ⊢
  exact Nat.lt_of_le_of_lt h.isPrefix.length_le hroom

-- Several bidders with different codes fit if there is room for all of them.
theorem extend {reason : InvitationReason} {picks : List ScoredBidder}
    (h : Grows settings ranked reasons before after) (hr : reason ∈ reasons)
    (hroom : after.length + picks.length ≤ settings.maxBidders.toNat)
    (hnodup : (picks.map (·.bidder)).Nodup)
    (hpicks : ∀ b ∈ picks, b ∈ ranked ∧ hasBidder after b.bidder = false ∧
      Warrants settings reason b) :
    Grows settings ranked reasons before (after ++ picks.map (.of settings reason)) := by
  induction picks generalizing after with
  | nil => simpa using h
  | cons b picks ih =>
    rw [List.map_cons, List.nodup_cons] at hnodup
    rw [List.length_cons] at hroom
    obtain ⟨⟨hb, hnew, hw⟩, hrest⟩ := List.forall_mem_cons.mp hpicks
    have hfirst := h.invite (not_isFull_iff.mpr (by omega)) hb hnew hr hw
    have hnext : ∀ c ∈ picks, c ∈ ranked ∧
        hasBidder (after ++ [.of settings reason b]) c.bidder = false ∧
        Warrants settings reason c := by
      intro c hc
      obtain ⟨hcr, hcnew, hcw⟩ := hrest c hc
      refine ⟨hcr, ?_, hcw⟩
      rw [not_hasBidder_iff, List.map_append, List.mem_append, not_or]
      refine ⟨not_hasBidder_iff.mp hcnew, ?_⟩
      intro heq
      rw [List.map_singleton, List.mem_singleton] at heq
      exact hnodup.1 (List.mem_map.mpr ⟨c, hc, heq⟩)
    have hall := ih hfirst (by simp only [List.length_append, List.length_singleton]; omega)
      hnodup.2 hnext
    rwa [List.append_assoc] at hall

end Grows

theorem addAnchor_cases (settings : SelectionSettings) (ranked : List ScoredBidder)
    (invited : List Invitation) (anchor : String) :
    addAnchor settings ranked invited anchor = invited ∨
      ∃ b ∈ ranked, b.bidder = anchor ∧ isFull settings invited = false ∧
        hasBidder invited b.bidder = false ∧
        addAnchor settings ranked invited anchor = invited ++ [.of settings .anchor b] := by
  unfold addAnchor
  split
  · exact .inl rfl
  · rename_i hskip
    rw [Bool.not_eq_true, Bool.or_eq_false_iff] at hskip
    split
    · rename_i b hfind
      have hcode : b.bidder = anchor := by simpa using List.find?_some hfind
      exact .inr ⟨b, List.mem_of_find?_eq_some hfind, hcode, hskip.1, hcode ▸ hskip.2, rfl⟩
    · exact .inl rfl

theorem addAnchor_grows (invited : List Invitation) (anchor : String) :
    Grows settings ranked [.anchor] invited (addAnchor settings ranked invited anchor) := by
  rcases addAnchor_cases settings ranked invited anchor with heq | ⟨b, hb, _, hroom, hnew, heq⟩
  · rw [heq]
    exact .refl
  · rw [heq]
    exact Grows.refl.invite hroom hb hnew (List.mem_singleton_self _) trivial

theorem withAnchors_grows (anchors : List String) :
    Grows settings ranked [.anchor] [] (withAnchors settings ranked anchors) :=
  Grows.foldl addAnchor_grows _ _

-- What becomes of the next bidder in line while there is room: the invitations and the state of the
-- draws afterwards.
inductive ScorerStep (g : Generator σ) (settings : SelectionSettings) (b : ScoredBidder)
    (invited : List Invitation) (s : σ) : List Invitation → σ → Prop
  | known : hasBidder invited b.bidder = true → ScorerStep g settings b invited s invited s
  | below : b.total < settings.minScore → ScorerStep g settings b invited s invited s
  | unlucky : hasBidder invited b.bidder = false → Warrants settings .exploration b →
      settings.explorationRate ≤ (g.coin s).1 →
      ScorerStep g settings b invited s invited (g.coin s).2
  | lucky : hasBidder invited b.bidder = false → Warrants settings .exploration b →
      ¬ settings.explorationRate ≤ (g.coin s).1 →
      ScorerStep g settings b invited s (invited ++ [.of settings .exploration b]) (g.coin s).2
  | high : hasBidder invited b.bidder = false → Warrants settings .highScore b →
      ScorerStep g settings b invited s (invited ++ [.of settings .highScore b]) s

theorem withScorers_of_isFull (g : Generator σ) (rest : List ScoredBidder)
    {invited : List Invitation} (s : σ) (hfull : isFull settings invited = true) :
    withScorers g settings rest invited s = (invited, s) := by
  cases rest with
  | nil => rfl
  | cons b rest => simp only [withScorers, hfull, ite_true]

theorem withScorers_cons (g : Generator σ) (b : ScoredBidder) (rest : List ScoredBidder)
    {invited : List Invitation} (s : σ) (hroom : isFull settings invited = false) :
    ∃ next s', ScorerStep g settings b invited s next s' ∧
      withScorers g settings (b :: rest) invited s = withScorers g settings rest next s' := by
  simp only [withScorers, hroom, Bool.false_eq_true, ite_false]
  by_cases hknown : hasBidder invited b.bidder = true
  · exact ⟨invited, s, .known hknown, by simp only [hknown, Bool.true_or, ite_true]⟩
  rw [Bool.not_eq_true] at hknown
  by_cases hbelow : b.total < settings.minScore
  · exact ⟨invited, s, .below hbelow, by simp only [hbelow, decide_true, Bool.or_true, ite_true]⟩
  simp only [hknown, hbelow, decide_false, Bool.or_false, Bool.false_eq_true, ite_false]
  by_cases hlow : b.confidence < settings.lowConfidence
  · simp only [hlow, ite_true]
    by_cases hcoin : settings.explorationRate ≤ (g.coin s).1
    · exact ⟨_, _, .unlucky hknown ⟨hbelow, hlow⟩ hcoin, by simp only [hcoin, ite_true]⟩
    · exact ⟨_, _, .lucky hknown ⟨hbelow, hlow⟩ hcoin, by simp only [hcoin, ite_false]⟩
  · exact ⟨_, _, .high hknown ⟨hbelow, hlow⟩, by simp only [hlow, ite_false]⟩

theorem ScorerStep.grows {g : Generator σ} {b : ScoredBidder} {invited next : List Invitation}
    {s s' : σ} (h : ScorerStep g settings b invited s next s')
    (hroom : isFull settings invited = false) (hb : b ∈ ranked) :
    Grows settings ranked [.highScore, .exploration] invited next := by
  cases h with
  | known => exact .refl
  | below => exact .refl
  | unlucky => exact .refl
  | lucky hnew hw => exact Grows.refl.invite hroom hb hnew (by simp) hw
  | high hnew hw => exact Grows.refl.invite hroom hb hnew (by simp) hw

theorem withScorers_grows (g : Generator σ) {rest : List ScoredBidder} (hsub : rest ⊆ ranked)
    (invited : List Invitation) (s : σ) :
    Grows settings ranked [.highScore, .exploration] invited
      (withScorers g settings rest invited s).1 := by
  induction rest generalizing invited s with
  | nil => exact .refl
  | cons b rest ih =>
    obtain ⟨hb, hrest⟩ := List.cons_subset.mp hsub
    cases hfull : isFull settings invited with
    | true =>
      rw [withScorers_of_isFull g _ s hfull]
      exact .refl
    | false =>
      obtain ⟨next, s', hstep, heq⟩ := withScorers_cons g b rest s hfull
      rw [heq]
      exact (hstep.grows hfull hb).trans (ih hrest next s')

-- One high scorer who does not need luck.
def addScorer (settings : SelectionSettings) (invited : List Invitation) (c : ScoredBidder) :
    List Invitation :=
  if isFull settings invited || hasBidder invited c.bidder || c.total < settings.minScore then
    invited
  else invited ++ [.of settings .highScore c]

theorem addScorer_of_isFull {invited : List Invitation} (hfull : isFull settings invited = true)
    (c : ScoredBidder) : addScorer settings invited c = invited := by
  simp only [addScorer, hfull, Bool.true_or, ite_true]

theorem foldl_addScorer_of_isFull {invited : List Invitation}
    (hfull : isFull settings invited = true) (line : List ScoredBidder) :
    line.foldl (addScorer settings) invited = invited := by
  induction line with
  | nil => rfl
  | cons c line ih => rw [List.foldl_cons, addScorer_of_isFull hfull, ih]

-- Where nobody needs luck, the line is one high scorer after the other, and nothing is drawn.
theorem withScorers_of_confident (g : Generator σ) {line : List ScoredBidder}
    (hconfident : ∀ c ∈ line, ¬ c.confidence < settings.lowConfidence) (invited : List Invitation)
    (s : σ) :
    withScorers g settings line invited s = (line.foldl (addScorer settings) invited, s) := by
  induction line generalizing invited with
  | nil => rfl
  | cons c line ih =>
    obtain ⟨hc, hrest⟩ := List.forall_mem_cons.mp hconfident
    cases hfull : isFull settings invited with
    | true => rw [withScorers_of_isFull g _ s hfull, foldl_addScorer_of_isFull hfull]
    | false =>
      simp only [withScorers, List.foldl_cons, addScorer, hfull, hc, Bool.false_eq_true, ite_false,
        Bool.false_or]
      split <;> exact ih hrest _

theorem addCategory_cases (settings : SelectionSettings) (ranked : List ScoredBidder)
    (invited : List Invitation) (category : String) :
    addCategory settings ranked invited category = invited ∨
      ∃ b, isFull settings invited = false ∧ (∀ i ∈ invited, i.category ≠ some category) ∧
        ranked.find? (fun c => !hasBidder invited c.bidder &&
          settings.categories.ofBidder? c.bidder == some category) = some b ∧
        addCategory settings ranked invited category = invited ++ [.of settings .diversity b] := by
  unfold addCategory
  split
  · exact .inl rfl
  · rename_i hskip
    rw [Bool.not_eq_true, Bool.or_eq_false_iff, List.any_eq_false] at hskip
    dsimp only
    split
    · rename_i b hfind
      exact .inr ⟨b, hskip.1, fun i hi => by simpa using hskip.2 i hi, hfind, rfl⟩
    · exact .inl rfl

theorem addCategory_grows (invited : List Invitation) (category : String) :
    Grows settings ranked [.diversity] invited (addCategory settings ranked invited category) := by
  rcases addCategory_cases settings ranked invited category with heq | ⟨b, hroom, _, hfind, heq⟩
  · rw [heq]
    exact .refl
  · have hbest := List.find?_some hfind
    rw [Bool.and_eq_true, Bool.not_eq_true', beq_iff_eq] at hbest
    rw [heq]
    exact Grows.refl.invite hroom (List.mem_of_find?_eq_some hfind) hbest.1
      (List.mem_singleton_self _) (by simp only [Warrants, hbest.2, Option.isSome_some])

theorem withCategories_grows (format : AdFormat) (invited : List Invitation) :
    Grows settings ranked [.diversity] invited (withCategories settings ranked format invited) := by
  unfold withCategories
  split
  · exact Grows.foldl addCategory_grows _ _
  · exact .refl

-- The bidders that a sample of places stands for.
def atPlaces (places : List Nat) (candidates : List ScoredBidder) : List ScoredBidder :=
  places.filterMap (candidates[·]?)

theorem atPlaces_subset (places : List Nat) (candidates : List ScoredBidder) :
    atPlaces places candidates ⊆ candidates := by
  intro b hb
  obtain ⟨i, _, hi⟩ := List.mem_filterMap.mp hb
  exact List.mem_of_getElem? hi

theorem length_atPlaces {places : List Nat} {candidates : List ScoredBidder}
    (h : ∀ i ∈ places, i < candidates.length) :
    (atPlaces places candidates).length = places.length := by
  induction places with
  | nil => rfl
  | cons i places ih =>
    obtain ⟨hi, hrest⟩ := List.forall_mem_cons.mp h
    simp only [atPlaces, List.filterMap_cons, List.getElem?_eq_getElem hi, List.length_cons]
    exact congrArg (· + 1) (ih hrest)

-- Different places of bidders with different codes give different codes.
theorem nodup_atPlaces {places : List Nat} {candidates : List ScoredBidder}
    (hplaces : places.Nodup) (hcodes : (candidates.map (·.bidder)).Nodup) :
    ((atPlaces places candidates).map (·.bidder)).Nodup := by
  rw [atPlaces, List.map_filterMap]
  apply hplaces.filterMap
  intro i j code hi hj
  rw [Option.mem_def, ← List.getElem?_map] at hi hj
  obtain ⟨hlt, _⟩ := List.getElem?_eq_some_iff.mp hi
  exact (List.getElem?_inj hlt hcodes).mp (hi.trans hj.symm)

theorem mem_pool {invited : List Invitation} {b : ScoredBidder} :
    b ∈ pool settings ranked invited ↔
      b ∈ ranked ∧ hasBidder invited b.bidder = false ∧ b.confidence < settings.slotConfidence := by
  simp [pool]

theorem nodup_pool (h : (ranked.map (·.bidder)).Nodup) (invited : List Invitation) :
    ((pool settings ranked invited).map (·.bidder)).Nodup :=
  h.sublist (List.filter_sublist.map _)

-- The places in the pool that are drawn, none if there is nothing to fill.
def drawnPlaces (g : Generator σ) (settings : SelectionSettings) (ranked : List ScoredBidder)
    (invited : List Invitation) (s : σ) : List Nat :=
  if slots settings ranked invited = 0 then []
  else (g.sample (pool settings ranked invited).length (slots settings ranked invited) s).1

def drawn (g : Generator σ) (settings : SelectionSettings) (ranked : List ScoredBidder)
    (invited : List Invitation) (s : σ) : List ScoredBidder :=
  atPlaces (drawnPlaces g settings ranked invited s) (pool settings ranked invited)

theorem withSlots_eq_drawn (g : Generator σ) (settings : SelectionSettings)
    (ranked : List ScoredBidder) (invited : List Invitation) (s : σ) :
    (withSlots g settings ranked invited s).1 =
      invited ++ (drawn g settings ranked invited s).map (.of settings .explorationSlot) := by
  unfold withSlots drawn drawnPlaces
  dsimp only
  split
  · simp [atPlaces]
  · rfl

theorem drawn_subset_pool (g : Generator σ) (invited : List Invitation) (s : σ) :
    drawn g settings ranked invited s ⊆ pool settings ranked invited :=
  atPlaces_subset _ _

theorem drawnPlaces_lawful {g : Generator σ} (hg : g.Lawful) (settings : SelectionSettings)
    (ranked : List ScoredBidder) (invited : List Invitation) (s : σ) :
    (drawnPlaces g settings ranked invited s).length = slots settings ranked invited ∧
      (drawnPlaces g settings ranked invited s).Nodup ∧
      ∀ i ∈ drawnPlaces g settings ranked invited s, i < (pool settings ranked invited).length := by
  unfold drawnPlaces
  split
  · rename_i hzero
    exact ⟨hzero.symm, .nil, by simp⟩
  · exact hg _ _ s (Nat.min_le_right _ _)

theorem length_drawn {g : Generator σ} (hg : g.Lawful) (invited : List Invitation) (s : σ) :
    (drawn g settings ranked invited s).length = slots settings ranked invited := by
  obtain ⟨hlength, _, hbelow⟩ := drawnPlaces_lawful hg settings ranked invited s
  exact (length_atPlaces hbelow).trans hlength

-- Where nobody is in the pool twice, nobody is drawn twice.
theorem nodup_drawn {g : Generator σ} (hg : g.Lawful) (invited : List Invitation) (s : σ)
    (h : ((pool settings ranked invited).map (·.bidder)).Nodup) :
    ((drawn g settings ranked invited s).map (·.bidder)).Nodup :=
  nodup_atPlaces (drawnPlaces_lawful hg settings ranked invited s).2.1 h

theorem withSlots_grows {g : Generator σ} (hg : g.Lawful) (h : (ranked.map (·.bidder)).Nodup)
    (invited : List Invitation) (s : σ) :
    Grows settings ranked [.explorationSlot] invited (withSlots g settings ranked invited s).1 := by
  have hlength : (drawn g settings ranked invited s).length = slots settings ranked invited :=
    length_drawn hg invited s
  have hnodup : ((drawn g settings ranked invited s).map (·.bidder)).Nodup :=
    nodup_drawn hg invited s (nodup_pool h invited)
  rw [withSlots_eq_drawn]
  cases hdrawn : drawn g settings ranked invited s with
  | nil => simpa using Grows.refl
  | cons b picks =>
    rw [hdrawn] at hlength hnodup
    apply Grows.refl.extend (List.mem_singleton_self _) _ hnodup
    · intro c hc
      exact mem_pool.mp (drawn_subset_pool g invited s (hdrawn ▸ hc))
    · -- the slots are no more than the room that is left
      rw [hlength, slots]
      rw [List.length_cons, slots] at hlength
      omega

section Stages

variable (g : Generator σ) (settings : SelectionSettings) (anchors : List String)
  (scores : List ScoredBidder) (format : AdFormat) (s : σ)

-- After the high scorers.
def scored : List Invitation × σ :=
  withScorers g settings (ScoredBidder.bestFirst scores)
    (withAnchors settings (ScoredBidder.bestFirst scores) anchors) s

-- After the categories.
def covered : List Invitation :=
  withCategories settings (ScoredBidder.bestFirst scores) format
    (scored g settings anchors scores s).1

theorem invite_eq :
    invite g settings anchors scores format s =
      withSlots g settings (ScoredBidder.bestFirst scores)
        (covered g settings anchors scores format s) (scored g settings anchors scores s).2 :=
  rfl

theorem scored_grows :
    Grows settings (ScoredBidder.bestFirst scores) [.anchor, .highScore, .exploration] []
      (scored g settings anchors scores s).1 := by
  apply Grows.trans ((withAnchors_grows anchors).mono (by simp))
  exact (withScorers_grows g (List.Subset.refl _) _ s).mono (by simp)

theorem covered_grows :
    Grows settings (ScoredBidder.bestFirst scores) [.diversity]
      (scored g settings anchors scores s).1 (covered g settings anchors scores format s) :=
  withCategories_grows format _

-- All steps but the last.
theorem covered_grows_empty :
    Grows settings (ScoredBidder.bestFirst scores)
      [.anchor, .highScore, .exploration, .diversity] []
      (covered g settings anchors scores format s) := by
  apply Grows.trans ((scored_grows g settings anchors scores s).mono (by simp))
  exact (covered_grows g settings anchors scores format s).mono (by simp)

variable {g scores} (hg : g.Lawful) (hcodes : (scores.map (·.bidder)).Nodup)

include hg hcodes

theorem invite_grows :
    Grows settings (ScoredBidder.bestFirst scores) [.explorationSlot]
      (covered g settings anchors scores format s)
      (invite g settings anchors scores format s).1 :=
  withSlots_grows hg (ScoredBidder.nodup_codes_bestFirst hcodes) _ _

-- All steps together.
theorem invite_grows_empty :
    Grows settings (ScoredBidder.bestFirst scores)
      [.anchor, .highScore, .exploration, .diversity, .explorationSlot] []
      (invite g settings anchors scores format s).1 := by
  apply Grows.trans ((covered_grows_empty g settings anchors scores format s).mono (by simp))
  exact (invite_grows settings anchors format s hg hcodes).mono (by simp)

end Stages

theorem choose_eq_normal (g : Generator σ) (source : Option AnchorSource)
    (scores : List ScoredBidder) (o : Opportunity) (s : σ) (hbypass : settings.bypass = false)
    (hshadow : settings.shadow = false) :
    choose g settings source scores o s =
      normal g settings (anchorsOf settings source scores o) scores o.format s := by
  simp only [choose, hbypass, hshadow, Bool.false_eq_true, ite_false]

end DemandRouting.Selection
