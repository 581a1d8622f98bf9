import DemandRouting.Proofs.Number.Rank
import DemandRouting.Proofs.Selection.Anchors

namespace DemandRouting

namespace ScoredBidder

-- With another score the bidder stands further up, and the others stand as before.
def Raised (b b' : ScoredBidder) (ranked ranked' : List ScoredBidder) : Prop :=
  ∃ front mid back, ranked = front ++ (mid ++ b :: back) ∧ ranked' = front ++ b' :: (mid ++ back)

-- Without the bidder both rankings are the one of the others, so that they differ by its place.
theorem bestFirst_raised {before after : List ScoredBidder} {b b' : ScoredBidder}
    (hcodes : ((before ++ b :: after).map (·.bidder)).Nodup) (hcode : b'.bidder = b.bidder)
    (hmore : Number.rank b.total < Number.rank b'.total) :
    Raised b b' (bestFirst (before ++ b :: after)) (bestFirst (before ++ b' :: after)) := by
  have hcodes' : ((before ++ b' :: after).map (·.bidder)).Nodup := by
    simpa only [List.map_append, List.map_cons, hcode] using hcodes
  have hothers := filter_bestFirst (·.bidder ≠ b.bidder) (before ++ b :: after)
  have hothers' := filter_bestFirst (·.bidder ≠ b'.bidder) (before ++ b' :: after)
  have hpairs := bestFirst_pairwise (before ++ b :: after)
  have hpairs' := bestFirst_pairwise (before ++ b' :: after)
  have hranked := nodup_codes_bestFirst hcodes
  have hranked' := nodup_codes_bestFirst hcodes'
  have hmem : b ∈ bestFirst (before ++ b :: after) := by simp
  have hmem' : b' ∈ bestFirst (before ++ b' :: after) := by simp
  rw [filter_key_ne ScoredBidder.bidder hcodes] at hothers
  rw [filter_key_ne ScoredBidder.bidder hcodes'] at hothers'
  obtain ⟨front, back, heq⟩ := List.append_of_mem hmem
  obtain ⟨front', back', heq'⟩ := List.append_of_mem hmem'
  rw [heq] at hpairs hranked hothers ⊢
  rw [heq'] at hpairs' hranked' hothers' ⊢
  rw [filter_key_ne ScoredBidder.bidder hranked] at hothers
  rw [filter_key_ne ScoredBidder.bidder hranked', ← hothers] at hothers'
  rcases List.append_eq_append_iff.mp hothers' with ⟨mid, rfl, rfl⟩ | ⟨mid, rfl, rfl⟩
  · exact ⟨front', mid, back, List.append_assoc _ _ _, rfl⟩
  · cases mid with
    | nil => exact ⟨front, [], back', by simp, by simp⟩
    | cons c mid =>
      -- nobody stands behind the lower total and before the higher one
      have hbelow : Number.rank c.total ≤ Number.rank b.total := by
        simp only [List.pairwise_append, List.pairwise_cons] at hpairs
        exact hpairs.2.1.1 c (by simp)
      have habove : Number.rank b'.total ≤ Number.rank c.total := by
        simp only [List.pairwise_append] at hpairs'
        exact hpairs'.2.2 c (by simp) _ List.mem_cons_self
      omega

-- A search that does not look at the score finds the same bidder, unless it finds this one now.
theorem Raised.find?_eq {b b' : ScoredBidder} {ranked ranked' : List ScoredBidder}
    {p : ScoredBidder → Bool} (h : Raised b b' ranked ranked') (hp : p b' = p b) :
    ranked'.find? p = some b' ∨ ranked'.find? p = ranked.find? p := by
  obtain ⟨front, mid, back, rfl, rfl⟩ := h
  cases hfront : front.find? p with
  | some c => simp only [List.find?_append, hfront, Option.some_or, or_true]
  | none =>
    cases hb : p b with
    | true =>
      left
      rw [List.find?_append, hfront, Option.none_or, List.find?_cons_of_pos (hp.trans hb)]
    | false =>
      right
      simp only [List.find?_append, List.find?_cons, hp, hb]

end ScoredBidder

namespace Selection

variable {σ : Type} {settings : SelectionSettings} {ranked ranked' : List ScoredBidder}
  {invited invited' : List Invitation} {b b' : ScoredBidder}

theorem isFull_congr (hsame : invited'.map (·.bidder) = invited.map (·.bidder)) :
    isFull settings invited' = isFull settings invited := by
  have hlength := congrArg List.length hsame
  rw [List.length_map, List.length_map] at hlength
  rw [isFull, isFull, hlength]

theorem hasBidder_congr (hsame : invited'.map (·.bidder) = invited.map (·.bidder))
    (bidder : String) : hasBidder invited' bidder = hasBidder invited bidder := by
  rw [Bool.eq_iff_iff, hasBidder_iff, hasBidder_iff, hsame]

theorem codes_invite (invited : List Invitation) (reason : InvitationReason) (c : ScoredBidder) :
    (invited ++ [Invitation.of settings reason c]).map (·.bidder) =
      invited.map (·.bidder) ++ [c.bidder] :=
  List.map_append

-- Invitations that name the category of their bidder show it by their codes.
theorem Labelled.any_category (h : Labelled settings invited) (category : String) :
    invited.any (·.category == some category) =
      (invited.map (·.bidder)).any (settings.categories.ofBidder? · == some category) := by
  rw [Bool.eq_iff_iff, List.any_eq_true, List.any_map, List.any_eq_true]
  refine exists_congr fun i => and_congr_right fun hi => ?_
  rw [h i hi, Function.comp_apply]

theorem codes_addScorer (settings : SelectionSettings)
    (hsame : invited'.map (·.bidder) = invited.map (·.bidder)) (c : ScoredBidder) :
    (addScorer settings invited' c).map (·.bidder) =
      (addScorer settings invited c).map (·.bidder) := by
  unfold addScorer
  rw [isFull_congr hsame, hasBidder_congr hsame]
  split
  · exact hsame
  · rw [codes_invite, codes_invite, hsame]

theorem codes_foldl_addScorer (settings : SelectionSettings)
    (hsame : invited'.map (·.bidder) = invited.map (·.bidder)) (line : List ScoredBidder) :
    (line.foldl (addScorer settings) invited').map (·.bidder) =
      (line.foldl (addScorer settings) invited).map (·.bidder) :=
  List.foldl_rel (r := fun invited' invited : List Invitation =>
    invited'.map (·.bidder) = invited.map (·.bidder)) hsame fun c _ _ _ hsame =>
      codes_addScorer settings hsame c

theorem mem_codes_addScorer {bidder : String} (hin : bidder ∈ invited.map (·.bidder))
    (c : ScoredBidder) : bidder ∈ (addScorer settings invited c).map (·.bidder) := by
  unfold addScorer
  split
  · exact hin
  · rw [codes_invite]
    exact List.mem_append_left _ hin

theorem mem_codes_foldl_addScorer {bidder : String} (hin : bidder ∈ invited.map (·.bidder))
    (line : List ScoredBidder) :
    bidder ∈ (line.foldl (addScorer settings) invited).map (·.bidder) := by
  induction line generalizing invited with
  | nil => exact hin
  | cons c line ih => exact ih (mem_codes_addScorer hin c)

-- Who is not invited in its turn comes too late or is below the least score.
theorem addScorer_of_not_mem {c : ScoredBidder}
    (hout : c.bidder ∉ (addScorer settings invited c).map (·.bidder)) :
    addScorer settings invited c = invited ∧
      (isFull settings invited = true ∨ c.total < settings.minScore) := by
  by_cases hskip : (isFull settings invited || hasBidder invited c.bidder ||
      decide (c.total < settings.minScore)) = true
  · rw [addScorer, if_pos hskip] at hout ⊢
    rw [Bool.or_eq_true, Bool.or_eq_true, decide_eq_true_eq, hasBidder_iff] at hskip
    refine ⟨rfl, ?_⟩
    rcases hskip with (hfull | hin) | hbelow
    · exact .inl hfull
    · exact absurd hin hout
    · exact .inr hbelow
  · rw [addScorer, if_neg hskip, codes_invite] at hout
    exact absurd (List.mem_append_right _ (List.mem_singleton_self _)) hout

-- It has invited the bidder, or the two have invited the same.
def Keeps (bidder : String) (invited invited' : List Invitation) : Prop :=
  bidder ∈ invited'.map (·.bidder) ∨ invited'.map (·.bidder) = invited.map (·.bidder)

-- Until the new place of the bidder the runs are the same. There it is invited, or else it is not
-- invited at its old place either: there is no more room there, and the lower total is no better.
theorem foldl_addScorer_keeps (hraised : b.Raised b' ranked ranked') (hcode : b'.bidder = b.bidder)
    (hscore : ¬ b.total < settings.minScore → ¬ b'.total < settings.minScore)
    (hsame : invited'.map (·.bidder) = invited.map (·.bidder)) :
    Keeps b.bidder (ranked.foldl (addScorer settings) invited)
      (ranked'.foldl (addScorer settings) invited') := by
  obtain ⟨front, mid, back, rfl, rfl⟩ := hraised
  simp only [List.foldl_append, List.foldl_cons]
  have hfront := codes_foldl_addScorer settings hsame front
  generalize front.foldl (addScorer settings) invited = early at hfront ⊢
  generalize front.foldl (addScorer settings) invited' = early' at hfront ⊢
  by_cases hin : b'.bidder ∈ (addScorer settings early' b').map (·.bidder)
  · rw [hcode] at hin
    exact .inl (mem_codes_foldl_addScorer (mem_codes_foldl_addScorer hin mid) back)
  · obtain ⟨hskip, hwhy⟩ := addScorer_of_not_mem hin
    have hmid := codes_foldl_addScorer settings hfront mid
    have hold : addScorer settings (mid.foldl (addScorer settings) early) b =
        mid.foldl (addScorer settings) early := by
      rcases hwhy with hfull | hbelow
      · rw [isFull_congr hfront] at hfull
        rw [foldl_addScorer_of_isFull hfull, addScorer_of_isFull hfull]
      · have hbelow : b.total < settings.minScore := by_contra fun h => hscore h hbelow
        simp only [addScorer, hbelow, decide_true, Bool.or_true, ite_true]
    rw [hskip, hold]
    exact .inr (codes_foldl_addScorer settings hmid back)

-- The runs look for a category in the same cases. They find the same bidder then, unless the one
-- with the higher total finds its bidder.
theorem addCategory_keeps (hraised : b.Raised b' ranked ranked') (hcode : b'.bidder = b.bidder)
    (hlabels : Labelled settings invited) (hlabels' : Labelled settings invited')
    (hkeeps : Keeps b.bidder invited invited') (category : String) :
    Keeps b.bidder (addCategory settings ranked invited category)
      (addCategory settings ranked' invited' category) := by
  rcases hkeeps with hin | hsame
  · have hgrows : Grows settings ranked' [.diversity] invited'
        (addCategory settings ranked' invited' category) := addCategory_grows invited' category
    exact .inl ((hgrows.isPrefix.map _).subset hin)
  · have hfind := hraised.find?_eq (p := fun c => !hasBidder invited c.bidder &&
      settings.categories.ofBidder? c.bidder == some category) (by rw [hcode])
    simp only [addCategory, isFull_congr hsame, hasBidder_congr hsame,
      hlabels.any_category, hlabels'.any_category, hsame]
    split
    · exact .inr hsame
    rcases hfind with hfind | hfind
    · left
      rw [hfind, codes_invite, hcode]
      exact List.mem_append_right _ (List.mem_singleton_self _)
    · right
      rw [hfind]
      split
      · rw [codes_invite, codes_invite, hsame]
      · exact hsame

theorem withCategories_keeps (hraised : b.Raised b' ranked ranked') (hcode : b'.bidder = b.bidder)
    (format : AdFormat) (hlabels : Labelled settings invited)
    (hlabels' : Labelled settings invited') (hkeeps : Keeps b.bidder invited invited') :
    Keeps b.bidder (withCategories settings ranked format invited)
      (withCategories settings ranked' format invited') := by
  unfold withCategories
  split
  · refine (List.foldl_rel (r := fun invited invited' : List Invitation =>
      Labelled settings invited ∧ Labelled settings invited' ∧ Keeps b.bidder invited invited')
      ⟨hlabels, hlabels', hkeeps⟩ ?_).2.2
    intro category _ invited invited' ⟨hlabels, hlabels', hkeeps⟩
    exact ⟨(addCategory_grows invited category).labelled hlabels,
      (addCategory_grows invited' category).labelled hlabels',
      addCategory_keeps hraised hcode hlabels hlabels' hkeeps category⟩
  · exact hkeeps

theorem withSlots_of_none (g : Generator σ) (hslots : settings.explorationSlots = 0)
    (ranked : List ScoredBidder) (invited : List Invitation) (s : σ) :
    withSlots g settings ranked invited s = (invited, s) := by
  simp [withSlots, slots, hslots]

theorem covered_keeps (g : Generator σ) {before after : List ScoredBidder} (b b' : ScoredBidder)
    (hcodes : ((before ++ b :: after).map (·.bidder)).Nodup)
    (hconfident : ∀ c ∈ before ++ b :: after, ¬ c.confidence < settings.lowConfidence)
    (hcode : b'.bidder = b.bidder) (hconfidence : b'.confidence = b.confidence)
    (hmore : Number.rank b.total < Number.rank b'.total)
    (hscore : ¬ b.total < settings.minScore → ¬ b'.total < settings.minScore)
    (anchors : List String) (format : AdFormat) (s s' : σ) :
    Keeps b.bidder (covered g settings anchors (before ++ b :: after) format s)
      (covered g settings anchors (before ++ b' :: after) format s') := by
  have hraised := ScoredBidder.bestFirst_raised hcodes hcode hmore
  have hconfident' : ∀ c ∈ before ++ b' :: after, ¬ c.confidence < settings.lowConfidence := by
    simpa only [List.forall_mem_append, List.forall_mem_cons, hconfidence] using hconfident
  have hanchors : (withAnchors settings (ScoredBidder.bestFirst (before ++ b' :: after))
        anchors).map (·.bidder) =
      (withAnchors settings (ScoredBidder.bestFirst (before ++ b :: after))
        anchors).map (·.bidder) := by
    simp only [codes_withAnchors, List.map_append, List.map_cons, hcode]
  have hscored : Keeps b.bidder (scored g settings anchors (before ++ b :: after) s).1
      (scored g settings anchors (before ++ b' :: after) s').1 := by
    rw [scored, scored,
      withScorers_of_confident g fun c hc => hconfident c (ScoredBidder.mem_bestFirst.mp hc),
      withScorers_of_confident g fun c hc => hconfident' c (ScoredBidder.mem_bestFirst.mp hc)]
    exact foldl_addScorer_keeps hraised hcode hscore hanchors
  exact withCategories_keeps hraised hcode format
    ((scored_grows g settings anchors _ s).labelled nofun)
    ((scored_grows g settings anchors _ s').labelled nofun) hscored

-- Whoever is invited stays invited with a total that is higher, as a number or in the ranking. What
-- is drawn does not matter.
theorem choose_keeps_improved (g : Generator σ) (settings : SelectionSettings)
    (source : Option AnchorSource) {before after : List ScoredBidder} {b : ScoredBidder}
    {total : Float} (o : Opportunity) (s s' : σ) (hbypass : settings.bypass = false)
    (hshadow : settings.shadow = false) (hslots : settings.explorationSlots = 0)
    (hcodes : ((before ++ b :: after).map (·.bidder)).Nodup)
    (hconfident : ∀ c ∈ before ++ b :: after, ¬ c.confidence < settings.lowConfidence)
    (hproper : b.total.isNaN = false)
    (hmore : b.total < total ∨ Number.rank b.total < Number.rank total)
    (hinvited : (choose g settings source (before ++ b :: after) o s).1.isInvited b.bidder = true) :
    (choose g settings source (before ++ { b with total } :: after) o s').1.isInvited b.bidder =
      true := by
  have hrank : Number.rank b.total < Number.rank total := hmore.elim Number.rank_lt_of_lt id
  have hscore : ¬ b.total < settings.minScore → ¬ total < settings.minScore :=
    Number.not_lt_of_rank_le hproper (Int.le_of_lt hrank)
  have hasked : anchorsOf settings source (before ++ { b with total } :: after) o =
      anchorsOf settings source (before ++ b :: after) o :=
    anchorsOf_congr source o (by cases before <;> rfl)
  have hkeeps := covered_keeps g b { b with total } hcodes hconfident rfl rfl hrank hscore
    (anchorsOf settings source (before ++ b :: after) o) o.format s s'
  rw [choose_eq_normal g source _ o _ hbypass hshadow] at hinvited ⊢
  rw [hasked]
  simp only [Selection.isInvited, Selection.bidders, normal, invite_eq,
    withSlots_of_none g hslots, List.contains_iff_mem] at hinvited ⊢
  rcases hkeeps with hin | hsame
  · exact hin
  · rw [hsame]
    exact hinvited

-- Invited as the best of its category at first, and among the high scorers for the higher total.
def categoryBidder : ScoredBidder := ⟨"rubicon", 10.0, .all 0.0, 0.9, none, 0⟩

def highBidders : List ScoredBidder := [
  ⟨"acme", 80.0, .all 0.0, 0.9, none, 0⟩,
  ⟨"zeta", 70.0, .all 0.0, 0.9, none, 0⟩]

theorem bestFirst_highBidders :
    ScoredBidder.bestFirst (highBidders ++ categoryBidder :: []) =
      highBidders ++ categoryBidder :: [] :=
  List.mergeSort_of_pairwise (by decide +kernel)

theorem choose_keeps_categoryBidder :
    let settings : SelectionSettings := { maxBidders := 3, anchorCount := 0, explorationSlots := 0 }
    let o : Opportunity := .atTime ⟨0, 0⟩
    (choose Stream.generator settings none (highBidders ++ categoryBidder :: []) o
        (.ofSeed 7)).1.isInvited "rubicon" = true ∧
      (choose Stream.generator settings none
        (highBidders ++ { categoryBidder with total := 75.0 } :: []) o
        (.ofSeed 8)).1.isInvited "rubicon" = true := by
  have hinvited : (choose Stream.generator
      { maxBidders := 3, anchorCount := 0, explorationSlots := 0 } none
      (highBidders ++ categoryBidder :: []) (.atTime ⟨0, 0⟩) (.ofSeed 7)).1.isInvited "rubicon" =
        true := by
    simp only [choose, normal, invite, bestFirst_highBidders]
    decide +kernel
  refine ⟨hinvited, ?_⟩
  exact choose_keeps_improved (b := categoryBidder) Stream.generator _ none (.atTime ⟨0, 0⟩)
    (.ofSeed 7) (.ofSeed 8) rfl rfl rfl (by decide) (by decide +kernel) (by decide +kernel)
    (.inl (by decide +kernel)) hinvited

end Selection
end DemandRouting
