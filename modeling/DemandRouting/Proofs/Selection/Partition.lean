import DemandRouting.Proofs.Draws.Sample
import DemandRouting.Proofs.Selection.Growth

namespace DemandRouting.Selection

variable {σ : Type} {settings : SelectionSettings} {scores : List ScoredBidder}
  {reasons : List InvitationReason} {invited : List Invitation}

theorem mem_left {c : ScoredBidder} :
    c ∈ left scores invited ↔ c ∈ scores ∧ hasBidder invited c.bidder = false := by
  simp [left]

-- The codes of those that are left keep the order of the candidates.
theorem left_sublist (scores : List ScoredBidder) (invited : List Invitation) :
    ((left scores invited).map (·.bidder)).Sublist (scores.map (·.bidder)) :=
  List.filter_sublist.map _

theorem mem_codes_left {code : String} :
    code ∈ (left scores invited).map (·.bidder) ↔
      code ∈ scores.map (·.bidder) ∧ code ∉ invited.map (·.bidder) := by
  constructor
  · intro h
    obtain ⟨c, hc, rfl⟩ := List.mem_map.mp h
    obtain ⟨hmem, hnew⟩ := mem_left.mp hc
    exact ⟨List.mem_map_of_mem hmem, not_hasBidder_iff.mp hnew⟩
  · rintro ⟨h, hnew⟩
    obtain ⟨c, hc, rfl⟩ := List.mem_map.mp h
    exact List.mem_map_of_mem (mem_left.mpr ⟨hc, not_hasBidder_iff.mpr hnew⟩)

-- Only candidates are invited.
theorem Grows.codes_subset (h : Grows settings (ScoredBidder.bestFirst scores) reasons [] invited) :
    invited.map (·.bidder) ⊆ scores.map (·.bidder) := by
  intro code hcode
  obtain ⟨i, hi, rfl⟩ := List.mem_map.mp hcode
  rcases h.mem hi with hnone | ⟨_, _, b, hb, _, rfl⟩
  · cases hnone
  · exact List.mem_map_of_mem (ScoredBidder.mem_bestFirst.mp hb)

theorem Grows.perm_left (h : Grows settings (ScoredBidder.bestFirst scores) reasons [] invited)
    (hcodes : (scores.map (·.bidder)).Nodup) :
    (invited.map (·.bidder) ++ (left scores invited).map (·.bidder)).Perm
      (scores.map (·.bidder)) := by
  have hleft : ((left scores invited).map (·.bidder)).Nodup := hcodes.sublist (left_sublist _ _)
  have hdisjoint : (invited.map (·.bidder)).Disjoint ((left scores invited).map (·.bidder)) :=
    fun code hin hout => (mem_codes_left.mp hout).2 hin
  have hall := (h.nodup .nil).append hleft hdisjoint
  apply (List.perm_ext_iff_of_nodup hall hcodes).mpr
  intro code
  rw [List.mem_append, mem_codes_left]
  constructor
  · rintro (hin | hout)
    · exact h.codes_subset hin
    · exact hout.1
  · intro hcode
    by_cases hin : code ∈ invited.map (·.bidder)
    · exact .inl hin
    · exact .inr ⟨hcode, hin⟩

-- The candidates divided into invited and excluded ones.
structure Divides (settings : SelectionSettings) (scores : List ScoredBidder) (r : Selection) :
    Prop where
  perm : (r.bidders ++ r.excluded).Perm (scores.map (·.bidder))
  capped : r.invited.length ≤ settings.maxBidders.toNat
  ordered : r.excluded.Sublist (scores.map (·.bidder))
  counted : r.candidates = scores.length

-- This holds whatever the scores, the anchors and the draws are.
theorem choose_divides (g : Generator σ) (hg : g.Lawful) (settings : SelectionSettings)
    (source : Option AnchorSource) (scores : List ScoredBidder) (o : Opportunity) (s : σ)
    (hbypass : settings.bypass = false) (hshadow : settings.shadow = false)
    (hcodes : (scores.map (·.bidder)).Nodup) :
    Divides settings scores (choose g settings source scores o s).1 := by
  have h := invite_grows_empty settings (anchorsOf settings source scores o) o.format s hg hcodes
  rw [choose_eq_normal g source scores o s hbypass hshadow]
  exact {
    perm := h.perm_left hcodes
    capped := h.length_le (Nat.zero_le _)
    ordered := left_sublist _ _
    counted := rfl }

-- Candidates without a proper score are candidates as well.
def fewCandidates : List ScoredBidder := [
  ⟨"sovrn", 0.0 / 0.0, .all 0.0, 0.9, none, 0⟩,
  ⟨"rubicon", 40.0, .all 0.0, 0.1, none, 0⟩,
  ⟨"teads", 70.0, .all 0.0, 0.4, none, 0⟩,
  ⟨"acme", 10.0, .all 0.0, 0.2, none, 0⟩]

theorem choose_divides_fewCandidates :
    (fewCandidates.map (·.bidder)).Nodup ∧
      Divides { maxBidders := 2 } fewCandidates
        (choose Stream.generator { maxBidders := 2 }
          (some (Anchors.fixed .empty ["acme", "nobody", "acme"])) fewCandidates
          (.atTime ⟨0, 0⟩) (.ofSeed 7)).1 :=
  ⟨by decide, choose_divides Stream.generator Stream.generator_lawful _ _ _ _ _ rfl rfl (by decide)⟩

end DemandRouting.Selection
