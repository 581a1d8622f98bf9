import DemandRouting.Proofs.Lists
import DemandRouting.Proofs.Selection.Partition

namespace DemandRouting.Selection

variable {σ : Type} {settings : SelectionSettings} {scores : List ScoredBidder}

-- Bidders are found by their own codes.
theorem filterMap_find?_codes (hcodes : (scores.map (·.bidder)).Nodup)
    {passed : List ScoredBidder} (hpassed : passed ⊆ scores) :
    (passed.map (·.bidder)).filterMap (fun code => scores.find? (·.bidder == code)) = passed := by
  induction passed with
  | nil => rfl
  | cons b passed ih =>
    obtain ⟨hb, hrest⟩ := List.cons_subset.mp hpassed
    simp only [List.map_cons, List.filterMap_cons, find?_of_nodup_keys hcodes hb,
      ih hrest]

-- The selection `r` invites what the normal selection `n` invites, and after that everyone else.
structure Mirrors (settings : SelectionSettings) (scores : List ScoredBidder) (n r : Selection) :
    Prop where
  -- those that `n` leaves out, with scores of their own
  invited : ∃ passed : List ScoredBidder, passed.Sublist scores ∧
    passed.map (·.bidder) = n.excluded ∧ r.invited = n.invited ++ passed.map (.of settings .bypass)
  perm : r.bidders.Perm (scores.map (·.bidder))
  excluded : r.excluded = []
  counted : r.candidates = scores.length
  mode : r.mode = .shadow n.excluded

theorem withScorers_shadow (g : Generator σ) (settings : SelectionSettings)
    (line : List ScoredBidder) (invited : List Invitation) (s : σ) :
    withScorers g { settings with shadow := true } line invited s =
      withScorers g settings line invited s := by
  induction line generalizing invited s with
  | nil => rfl
  | cons b line ih =>
    simp only [withScorers, ih]
    rfl

theorem normal_shadow (g : Generator σ) (settings : SelectionSettings) (anchors : List String)
    (scores : List ScoredBidder) (format : AdFormat) (s : σ) :
    normal g { settings with shadow := true } anchors scores format s =
      normal g settings anchors scores format s := by
  simp only [normal, invite, withScorers_shadow]
  rfl

theorem choose_shadow (g : Generator σ) (settings : SelectionSettings)
    (source : Option AnchorSource) (scores : List ScoredBidder) (o : Opportunity) (s : σ)
    (hbypass : settings.bypass = false) (hshadow : settings.shadow = false) :
    choose g { settings with shadow := true } source scores o s =
      (shadowed settings scores (choose g settings source scores o s).1,
        (choose g settings source scores o s).2) := by
  have hanchors : anchorsOf { settings with shadow := true } source scores o =
      anchorsOf settings source scores o := rfl
  rw [choose_eq_normal g source scores o s hbypass hshadow, choose,
    if_neg (Bool.not_eq_true _ ▸ hbypass), hanchors, normal_shadow]
  rfl

-- What a shadow selection makes of a normal one.
theorem shadowed_mirrors {g : Generator σ} (hg : g.Lawful)
    (hcodes : (scores.map (·.bidder)).Nodup) (anchors : List String) (format : AdFormat) (s : σ) :
    Mirrors settings scores (normal g settings anchors scores format s).1
      (shadowed settings scores (normal g settings anchors scores format s).1) := by
  have hperm := (invite_grows_empty settings anchors format s hg hcodes).perm_left hcodes
  have hfound : ((normal g settings anchors scores format s).1.excluded.filterMap
      fun code => scores.find? (·.bidder == code)) =
        left scores (invite g settings anchors scores format s).1 :=
    filterMap_find?_codes hcodes List.filter_sublist.subset
  constructor
  case invited =>
    refine ⟨left scores (invite g settings anchors scores format s).1, List.filter_sublist, rfl, ?_⟩
    rw [← hfound]
    rfl
  case perm =>
    rw [bidders, shadowed, hfound, List.map_append, map_bidder_of]
    exact hperm
  case excluded => rfl
  case counted => rfl
  case mode => rfl

theorem choose_mirrors (g : Generator σ) (hg : g.Lawful) (settings : SelectionSettings)
    (source : Option AnchorSource) (scores : List ScoredBidder) (o : Opportunity) (s : σ)
    (hbypass : settings.bypass = false) (hshadow : settings.shadow = false)
    (hcodes : (scores.map (·.bidder)).Nodup) :
    Mirrors settings scores (choose g settings source scores o s).1
        (choose g { settings with shadow := true } source scores o s).1 ∧
      (choose g { settings with shadow := true } source scores o s).2 =
        (choose g settings source scores o s).2 := by
  rw [choose_shadow g settings source scores o s hbypass hshadow]
  refine ⟨?_, rfl⟩
  rw [choose_eq_normal g source scores o s hbypass hshadow]
  exact shadowed_mirrors hg hcodes _ _ s

theorem choose_mirrors_fewCandidates :
    (fewCandidates.map (·.bidder)).Nodup ∧
      Mirrors { maxBidders := 2 } fewCandidates
          (choose Stream.generator { maxBidders := 2 }
            (some (Anchors.fixed .empty ["acme", "nobody", "acme"])) fewCandidates
            (.atTime ⟨0, 0⟩) (.ofSeed 7)).1
          (choose Stream.generator { maxBidders := 2, shadow := true }
            (some (Anchors.fixed .empty ["acme", "nobody", "acme"])) fewCandidates
            (.atTime ⟨0, 0⟩) (.ofSeed 7)).1 ∧
        (choose Stream.generator { maxBidders := 2, shadow := true }
            (some (Anchors.fixed .empty ["acme", "nobody", "acme"])) fewCandidates
            (.atTime ⟨0, 0⟩) (.ofSeed 7)).2 =
          (choose Stream.generator { maxBidders := 2 }
            (some (Anchors.fixed .empty ["acme", "nobody", "acme"])) fewCandidates
            (.atTime ⟨0, 0⟩) (.ofSeed 7)).2 :=
  ⟨by decide, choose_mirrors Stream.generator Stream.generator_lawful { maxBidders := 2 } _ _ _ _
    rfl rfl (by decide)⟩

end DemandRouting.Selection
