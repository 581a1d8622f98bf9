import DemandRouting.Proofs.Lists
import DemandRouting.Proofs.Selection.Partition

namespace DemandRouting.Selection

variable {σ : Type} {settings : SelectionSettings} {ranked scores : List ScoredBidder}
  {invited : List Invitation}

-- Whom a source names for the publisher, the standard anchors if there is none, or if it fails or
-- names nobody.
def anchorsNamed (settings : SelectionSettings) (source : Option AnchorSource) (o : Opportunity) :
    List String :=
  match source with
  | none => Anchors.standard
  | some a =>
    match (a o.publisherId settings.anchorCount.toNat).result with
    | .ok (code :: codes) => code :: codes
    | _ => Anchors.standard

-- The first of the anchors, those of them that are candidates, each of these once, and no more than
-- there is room for.
def leadingAnchors (settings : SelectionSettings) (anchors codes : List String) : List String :=
  (((anchors.take settings.anchorCount.toNat).filter (codes.contains ·)).eraseDups).take
    settings.maxBidders.toNat

def isAnchor (i : Invitation) : Bool := i.reason = .anchor

-- An anchor is invited if there is room, if it is a candidate, and if it was not named before.
theorem codes_addAnchor (settings : SelectionSettings) (ranked : List ScoredBidder)
    (invited : List Invitation) (anchor : String) :
    (addAnchor settings ranked invited anchor).map (·.bidder) =
      if isFull settings invited = false ∧ anchor ∉ invited.map (·.bidder) ∧
          anchor ∈ ranked.map (·.bidder) then
        invited.map (·.bidder) ++ [anchor]
      else invited.map (·.bidder) := by
  unfold addAnchor
  by_cases hfull : isFull settings invited = true
  · simp [hfull]
  by_cases hknown : hasBidder invited anchor = true
  · simp [hknown, hasBidder_iff.mp hknown]
  rw [Bool.not_eq_true] at hfull hknown
  simp only [hfull, hknown, Bool.or_self, Bool.false_eq_true, ite_false, true_and,
    not_hasBidder_iff.mp hknown, not_false_eq_true]
  cases hfind : ranked.find? (·.bidder == anchor) with
  | none =>
    have hout : anchor ∉ ranked.map (·.bidder) := by
      simpa [List.find?_eq_none] using hfind
    rw [if_neg hout]
  | some b =>
    have hcode : b.bidder = anchor := by simpa using List.find?_some hfind
    have hin : anchor ∈ ranked.map (·.bidder) :=
      hcode ▸ List.mem_map_of_mem (List.mem_of_find?_eq_some hfind)
    rw [if_pos hin, List.map_append, List.map_singleton, ← hcode]
    rfl

-- The induction is on the names from behind, since the fold invites the last one last.
theorem codes_foldl_addAnchor (settings : SelectionSettings) (ranked : List ScoredBidder)
    (names : List String) :
    (names.foldl (addAnchor settings ranked) []).map (·.bidder) =
      ((names.filter ((ranked.map (·.bidder)).contains ·)).eraseDups).take
        settings.maxBidders.toNat := by
  induction names using List.reverseRecOn with
  | nil => simp
  | append_singleton names name ih =>
    rw [List.foldl_append, List.foldl_cons, List.foldl_nil, codes_addAnchor, ih, List.filter_append]
    have hlength := congrArg List.length ih
    rw [List.length_map, List.length_take] at hlength
    by_cases hcandidate : name ∈ ranked.map (·.bidder)
    · have hkeep : [name].filter ((ranked.map (·.bidder)).contains ·) = [name] := by
        simpa using hcandidate
      rw [hkeep, eraseDups_concat]
      generalize (names.filter ((ranked.map (·.bidder)).contains ·)).eraseDups = kept at *
      by_cases hroom : kept.length < settings.maxBidders.toNat
      · -- there is room, so that nothing is cut off yet
        have hfull : isFull settings (names.foldl (addAnchor settings ranked) []) = false := by
          rw [not_isFull_iff]
          omega
        rw [List.take_of_length_le (Nat.le_of_lt hroom)]
        by_cases hknown : name ∈ kept
        · simp only [hknown, not_true_eq_false, false_and, and_false, ite_false, ite_true]
          exact (List.take_of_length_le (Nat.le_of_lt hroom)).symm
        · simp only [hfull, hknown, hcandidate, not_false_eq_true, and_self, ite_true, ite_false]
          exact (List.take_of_length_le (by simpa using hroom)).symm
      · have hfull : isFull settings (names.foldl (addAnchor settings ranked) []) = true := by
          rw [isFull_iff]
          omega
        rw [hfull, if_neg (by simp)]
        split
        · rfl
        · exact (List.take_append_of_le_length (Nat.le_of_not_lt hroom)).symm
    · have hdrop : [name].filter ((ranked.map (·.bidder)).contains ·) = [] := by
        simpa using hcandidate
      rw [hdrop, List.append_nil, if_neg fun h => hcandidate h.2.2]

theorem codes_withAnchors (settings : SelectionSettings) (scores : List ScoredBidder)
    (anchors : List String) :
    (withAnchors settings (ScoredBidder.bestFirst scores) anchors).map (·.bidder) =
      leadingAnchors settings anchors (scores.map (·.bidder)) := by
  have hcodes : ∀ code, ((ScoredBidder.bestFirst scores).map (·.bidder)).contains code =
      (scores.map (·.bidder)).contains code :=
    contains_congr fun _ => ((ScoredBidder.bestFirst_perm scores).map _).mem_iff
  rw [withAnchors, codes_foldl_addAnchor]
  simp only [hcodes, leadingAnchors]

-- All invitations behind the anchors have other reasons.
theorem invite_front (g : Generator σ) (settings : SelectionSettings) (anchors : List String)
    (scores : List ScoredBidder) (format : AdFormat) (s : σ) :
    ∃ rest, (invite g settings anchors scores format s).1 =
        withAnchors settings (ScoredBidder.bestFirst scores) anchors ++ rest ∧
      ∀ i ∈ rest, i.reason ≠ .anchor := by
  have hgrows : Grows settings (ScoredBidder.bestFirst scores)
      [.highScore, .exploration, .diversity]
      (withAnchors settings (ScoredBidder.bestFirst scores) anchors)
      (covered g settings anchors scores format s) :=
    ((withScorers_grows g (List.Subset.refl _) _ s).mono (by simp)).trans
      ((covered_grows g settings anchors scores format s).mono (by simp))
  obtain ⟨added, hcovered, hadded⟩ := hgrows.exists_append
  rw [invite_eq, withSlots_eq_drawn, hcovered, List.append_assoc]
  refine ⟨_, rfl, List.forall_mem_append.mpr ⟨?_, ?_⟩⟩
  · intro i hi hanchor
    have hreason := hadded i hi
    rw [hanchor] at hreason
    exact absurd hreason (by decide)
  · intro i hi
    obtain ⟨b, _, rfl⟩ := List.mem_map.mp hi
    exact nofun

theorem filter_isAnchor_invite (g : Generator σ) (settings : SelectionSettings)
    (anchors : List String) (scores : List ScoredBidder) (format : AdFormat) (s : σ) :
    (invite g settings anchors scores format s).1.filter isAnchor =
      withAnchors settings (ScoredBidder.bestFirst scores) anchors := by
  obtain ⟨rest, heq, hrest⟩ := invite_front g settings anchors scores format s
  have hanchors : ∀ i ∈ withAnchors settings (ScoredBidder.bestFirst scores) anchors,
      isAnchor i = true := by
    intro i hi
    rcases (withAnchors_grows anchors).mem hi with hnone | ⟨reason, hreason, b, _, _, rfl⟩
    · cases hnone
    · rw [List.mem_singleton] at hreason
      simp [isAnchor, Invitation.of, hreason]
  rw [heq, List.filter_append, List.filter_eq_self.mpr hanchors,
    List.filter_eq_nil_iff.mpr fun i hi => by simpa [isAnchor] using hrest i hi, List.append_nil]

theorem anchorsOf_eq_anchorsNamed (source : Option AnchorSource) (o : Opportunity)
    (hbypass : settings.bypass = false) (hscores : scores ≠ []) :
    anchorsOf settings source scores o = anchorsNamed settings source o := by
  have hasked : ¬ (settings.bypass || scores.isEmpty) = true := by simp [hbypass, hscores]
  rw [anchorsOf, anchorReading?, if_neg hasked]
  cases source with
  | none => rfl
  | some a => rfl

-- The source is asked if there is anybody at all, and not about anybody.
theorem anchorsOf_congr {scores' : List ScoredBidder} (source : Option AnchorSource)
    (o : Opportunity) (h : scores'.isEmpty = scores.isEmpty) :
    anchorsOf settings source scores' o = anchorsOf settings source scores o := by
  rw [anchorsOf, anchorsOf, anchorReading?, anchorReading?, h]

theorem leadingAnchors_nil (settings : SelectionSettings) (anchors : List String) :
    leadingAnchors settings anchors [] = [] := by
  simp [leadingAnchors]

-- Without candidates there is nobody to lead, whoever is named.
theorem leadingAnchors_anchorsOf (source : Option AnchorSource) (scores : List ScoredBidder)
    (o : Opportunity) (hbypass : settings.bypass = false) :
    leadingAnchors settings (anchorsOf settings source scores o) (scores.map (·.bidder)) =
      leadingAnchors settings (anchorsNamed settings source o) (scores.map (·.bidder)) := by
  cases scores with
  | nil => rw [List.map_nil, leadingAnchors_nil, leadingAnchors_nil]
  | cons b scores => rw [anchorsOf_eq_anchorsNamed source o hbypass (List.cons_ne_nil _ _)]

-- A source that fails or names nobody.
def NamesNobody (settings : SelectionSettings) (a : AnchorSource) (o : Opportunity) : Prop :=
  (a o.publisherId settings.anchorCount.toNat).result = .ok [] ∨
    ∃ e, (a o.publisherId settings.anchorCount.toNat).result = .error e

theorem anchorsOf_of_namesNobody {a : AnchorSource} {o : Opportunity}
    (h : NamesNobody settings a o) (scores : List ScoredBidder) :
    anchorsOf settings (some a) scores o = anchorsOf settings none scores o := by
  unfold anchorsOf anchorReading?
  by_cases hunasked : (settings.bypass || scores.isEmpty) = true
  · simp only [if_pos hunasked]
  · simp only [if_neg hunasked, Option.map_some, Option.map_none, Anchors.ofReading]
    rcases h with h | ⟨e, h⟩ <;> rw [h]

-- The anchors among the invitations are those with the given codes, and stand in front.
structure LedBy (settings : SelectionSettings) (scores : List ScoredBidder)
    (leading : List String) (invited : List Invitation) : Prop where
  codes : (invited.filter isAnchor).map (·.bidder) = leading
  front : invited.filter isAnchor <+: invited
  -- each of them shows its candidate
  own : ∀ i ∈ invited.filter isAnchor, ∃ b ∈ scores, i = .of settings .anchor b

-- Candidates with the same codes have the same anchors, whatever their scores and the draws are. A
-- source that names nobody is as good as none, also for the draws.
theorem choose_ledByAnchors (g : Generator σ) (settings : SelectionSettings)
    (source : Option AnchorSource) (scores : List ScoredBidder) (o : Opportunity) (s : σ)
    (hbypass : settings.bypass = false) (hshadow : settings.shadow = false) :
    LedBy settings scores
        (leadingAnchors settings (anchorsNamed settings source o) (scores.map (·.bidder)))
        (choose g settings source scores o s).1.invited ∧
      (∀ scores' s', (∀ code, code ∈ scores'.map (·.bidder) ↔ code ∈ scores.map (·.bidder)) →
        ((choose g settings source scores' o s').1.invited.filter isAnchor).map (·.bidder) =
          ((choose g settings source scores o s).1.invited.filter isAnchor).map (·.bidder)) ∧
      ∀ a, NamesNobody settings a o →
        choose g settings (some a) scores o s = choose g settings none scores o s := by
  have hinvited : ∀ scores s, (choose g settings source scores o s).1.invited.filter isAnchor =
      withAnchors settings (ScoredBidder.bestFirst scores)
        (anchorsOf settings source scores o) := by
    intro scores s
    rw [choose_eq_normal g source scores o s hbypass hshadow]
    exact filter_isAnchor_invite g settings _ scores o.format s
  have hcodes : ∀ scores s,
      ((choose g settings source scores o s).1.invited.filter isAnchor).map (·.bidder) =
        leadingAnchors settings (anchorsNamed settings source o) (scores.map (·.bidder)) := by
    intro scores s
    rw [hinvited, codes_withAnchors, leadingAnchors_anchorsOf source scores o hbypass]
  refine ⟨⟨hcodes scores s, ?_, ?_⟩, ?_, ?_⟩
  · rw [hinvited, choose_eq_normal g source scores o s hbypass hshadow]
    obtain ⟨rest, heq, _⟩ := invite_front g settings (anchorsOf settings source scores o) scores
      o.format s
    exact ⟨rest, heq.symm⟩
  · intro i hi
    rw [hinvited] at hi
    rcases (withAnchors_grows _).mem hi with hnone | ⟨reason, hreason, b, hb, _, rfl⟩
    · cases hnone
    · rw [List.mem_singleton.mp hreason]
      exact ⟨b, ScoredBidder.mem_bestFirst.mp hb, rfl⟩
  · intro scores' s' hsame
    have hcontains : ∀ code, (scores'.map (·.bidder)).contains code =
        (scores.map (·.bidder)).contains code := contains_congr hsame
    rw [hcodes, hcodes]
    simp only [leadingAnchors, hcontains]
  · intro a ha
    simp only [choose, anchorsOf_of_namesNobody ha scores]

-- A source that goes beyond its limit, repeats itself and names a stranger; candidates with other
-- scores in another order; and a source that names nobody.
theorem choose_ledByAnchors_longList :
    let settings : SelectionSettings := { maxBidders := 2, anchorCount := 4 }
    let source : AnchorSource := fun _ _ => .immediate ["acme", "nobody", "acme", "teads", "sovrn"]
    let silent : AnchorSource := fun _ _ => .immediate []
    let others : List ScoredBidder := fewCandidates.reverse.map fun b => { b with total := 5.0 }
    let o : Opportunity := .atTime ⟨0, 0⟩
    let run := choose Stream.generator settings (some source) fewCandidates o (.ofSeed 7)
    settings.bypass = false ∧ settings.shadow = false ∧
      LedBy settings fewCandidates ["acme", "teads"] run.1.invited ∧
      ((choose Stream.generator settings (some source) others o (.ofSeed 8)).1.invited.filter
        isAnchor).map (·.bidder) = (run.1.invited.filter isAnchor).map (·.bidder) ∧
      choose Stream.generator settings (some silent) fewCandidates o (.ofSeed 7) =
        choose Stream.generator settings none fewCandidates o (.ofSeed 7) := by
  intro settings source silent others o run
  have hsame : ∀ code, code ∈ others.map (·.bidder) ↔ code ∈ fewCandidates.map (·.bidder) := by
    intro code
    simp only [others, fewCandidates, List.map_reverse, List.map_map, List.mem_reverse]
    rfl
  obtain ⟨hled, hcodes, hsilent⟩ := choose_ledByAnchors Stream.generator settings (some source)
    fewCandidates o (.ofSeed 7) rfl rfl
  have hleading : leadingAnchors settings (anchorsNamed settings (some source) o)
      (fewCandidates.map (·.bidder)) = ["acme", "teads"] := by decide
  rw [hleading] at hled
  simp only [run]
  exact ⟨rfl, rfl, hled, hcodes others (.ofSeed 8) hsame, hsilent silent (.inl rfl)⟩

end DemandRouting.Selection
