import DemandRouting.Proofs.Selection.Anchors

namespace DemandRouting

-- Candidates with different totals are best first in one order, however they are listed.
theorem ScoredBidder.bestFirst_eq_of_perm {scores scores' : List ScoredBidder}
    (hperm : scores'.Perm scores) (htotals : (scores.map (Number.rank ·.total)).Nodup) :
    bestFirst scores' = bestFirst scores := by
  have hranked : (bestFirst scores').Perm (bestFirst scores) :=
    (bestFirst_perm scores').trans (hperm.trans (bestFirst_perm scores).symm)
  apply hranked.eq_of_pairwise _ (bestFirst_pairwise scores') (bestFirst_pairwise scores)
  intro b c hb hc hcb hbc
  have hb : b ∈ scores := hperm.subset (mem_bestFirst.mp hb)
  have hc : c ∈ scores := mem_bestFirst.mp hc
  exact List.inj_on_of_nodup_map htotals hb hc (Int.le_antisymm hbc hcb)

namespace Selection

variable {σ : Type} {scores scores' : List ScoredBidder}

theorem left_perm (hperm : scores'.Perm scores) (invited : List Invitation) :
    ((left scores' invited).map (·.bidder)).Perm ((left scores invited).map (·.bidder)) :=
  (hperm.filter _).map _

-- The same bidders are invited in the same order and for the same reasons, and the same draws are
-- spent on them.
theorem choose_reordered (g : Generator σ) (settings : SelectionSettings)
    (source : Option AnchorSource) {scores scores' : List ScoredBidder} (o : Opportunity) (s : σ)
    (hbypass : settings.bypass = false) (hshadow : settings.shadow = false)
    (htotals : (scores.map (Number.rank ·.total)).Nodup) (hperm : scores'.Perm scores) :
    (choose g settings source scores' o s).1.invited =
        (choose g settings source scores o s).1.invited ∧
      (choose g settings source scores' o s).1.excluded.Perm
        (choose g settings source scores o s).1.excluded ∧
      (choose g settings source scores' o s).2 = (choose g settings source scores o s).2 := by
  have hinvite : invite g settings (anchorsOf settings source scores' o) scores' o.format s =
      invite g settings (anchorsOf settings source scores o) scores o.format s := by
    rw [anchorsOf_congr source o hperm.isEmpty_eq, invite, invite,
      ScoredBidder.bestFirst_eq_of_perm hperm htotals]
  rw [choose_eq_normal g source scores o s hbypass hshadow,
    choose_eq_normal g source scores' o s hbypass hshadow]
  simp only [normal, hinvite, true_and, and_true]
  exact left_perm hperm _

-- Luck, a slot and a bidder without a proper score, listed from behind.
theorem choose_reordered_fewCandidates :
    let settings : SelectionSettings := { maxBidders := 3, explorationSlots := 1 }
    let source : AnchorSource := Anchors.fixed .empty ["acme"]
    let o : Opportunity := .atTime ⟨0, 0⟩
    let r := choose Stream.generator settings (some source) fewCandidates o (.ofSeed 7)
    let r' := choose Stream.generator settings (some source) fewCandidates.reverse o (.ofSeed 7)
    (fewCandidates.map (Number.rank ·.total)).Nodup ∧
      r'.1.invited = r.1.invited ∧ r'.1.excluded.Perm r.1.excluded ∧ r'.2 = r.2 := by
  have htotals : (fewCandidates.map (Number.rank ·.total)).Nodup := by decide +kernel
  exact ⟨htotals, choose_reordered Stream.generator { maxBidders := 3, explorationSlots := 1 } _
    (.atTime ⟨0, 0⟩) (.ofSeed 7) rfl rfl htotals fewCandidates.reverse_perm⟩

end Selection
end DemandRouting
