import DemandRouting.Proofs.Draws.Sample
import DemandRouting.Proofs.Selection.Growth

namespace DemandRouting

-- The given places first, the other ones behind.
def preferring (first : List Nat) (length amount : Nat) : List Nat :=
  ((List.range length).filter (first.contains ·) ++
    (List.range length).filter (!first.contains ·)).take amount

theorem preferring_lawful (first : List Nat) {length amount : Nat} (h : amount ≤ length) :
    (preferring first length amount).length = amount ∧ (preferring first length amount).Nodup ∧
      ∀ i ∈ preferring first length amount, i < length := by
  have hperm := List.filter_append_perm (first.contains ·) (List.range length)
  have hlength := hperm.length_eq
  rw [List.length_range] at hlength
  refine ⟨?_, ?_, fun i hi => ?_⟩
  · rw [preferring, List.length_take, hlength]
    exact Nat.min_eq_left h
  · exact (hperm.nodup_iff.mpr List.nodup_range).sublist (List.take_sublist _ _)
  · exact List.mem_range.mp (hperm.mem_iff.mp (List.mem_of_mem_take hi))

-- They are all taken if there are not too many of them.
theorem mem_preferring {first : List Nat} {length amount i : Nat} (h : first.length ≤ amount)
    (hi : i ∈ first) (hlength : i < length) : i ∈ preferring first length amount := by
  have hsub : (List.range length).filter (first.contains ·) ⊆ first := fun j hj => by
    simpa using (List.mem_filter.mp hj).2
  have hfew : ((List.range length).filter (first.contains ·)).length ≤ amount :=
    Nat.le_trans (List.subperm_of_subset (List.nodup_range.filter _) hsub).length_le h
  rw [preferring, List.take_append, List.take_of_length_le hfew, List.mem_append]
  exact .inl (List.mem_filter.mpr ⟨List.mem_range.mpr hlength, by simpa using hi⟩)

namespace Selection

variable {σ : Type} {settings : SelectionSettings} {ranked scores : List ScoredBidder}
  {invited : List Invitation}

-- Two places of one bidder give two invitations.
theorem not_nodup_atPlaces {places : List Nat} {candidates : List ScoredBidder} {i j : Nat}
    {b c : ScoredBidder} (hi : i ∈ places) (hj : j ∈ places) (hne : i ≠ j)
    (hb : candidates[i]? = some b) (hc : candidates[j]? = some c) (hsame : b.bidder = c.bidder) :
    ¬ ((atPlaces places candidates).map (·.bidder)).Nodup := by
  have hmem : j ∈ places.erase i := (List.mem_erase_of_ne hne.symm).mpr hj
  have hperm : places.Perm (i :: j :: (places.erase i).erase j) :=
    (List.perm_cons_erase hi).trans ((List.perm_cons_erase hmem).cons i)
  have hfront : atPlaces (i :: j :: (places.erase i).erase j) candidates =
      b :: c :: atPlaces ((places.erase i).erase j) candidates := by
    simp only [atPlaces, List.filterMap_cons, hb, hc]
  have hcodes := ((hperm.filterMap (candidates[·]?)).map (·.bidder)).nodup_iff
  change (((atPlaces places candidates).map (·.bidder)).Nodup ↔
    ((atPlaces (i :: j :: (places.erase i).erase j) candidates).map (·.bidder)).Nodup) at hcodes
  rw [hcodes, hfront, List.map_cons, List.map_cons, hsame, List.nodup_cons]
  exact fun h => h.1 List.mem_cons_self

-- Who is drawn has no invitation yet.
theorem nodup_withSlots_iff (g : Generator σ) (s : σ) (h : (invited.map (·.bidder)).Nodup) :
    ((withSlots g settings ranked invited s).1.map (·.bidder)).Nodup ↔
      ((drawn g settings ranked invited s).map (·.bidder)).Nodup := by
  have hnew : (invited.map (·.bidder)).Disjoint
      ((drawn g settings ranked invited s).map (·.bidder)) := by
    intro code hin hdrawn
    obtain ⟨b, hb, rfl⟩ := List.mem_map.mp hdrawn
    exact not_hasBidder_iff.mp (mem_pool.mp (drawn_subset_pool g invited s hb)).2.1 hin
  rw [withSlots_eq_drawn, List.map_append, map_bidder_of, List.nodup_append']
  exact ⟨fun hall => hall.2.1, fun hdrawn => ⟨h, hdrawn, hnew⟩⟩

theorem nodup_codes_of_length_le_one {picks : List ScoredBidder} (h : picks.length ≤ 1) :
    (picks.map (·.bidder)).Nodup := by
  cases picks with
  | nil => exact .nil
  | cons b picks =>
    obtain rfl : picks = [] := List.length_eq_zero_iff.mp (by simpa using h)
    exact List.nodup_singleton _

-- The sample that begins with two places of one bidder.
theorem exists_sample_repeats (g : Generator σ) (s : σ)
    (hslots : 1 < slots settings ranked invited)
    (hrepeats : ¬ ((pool settings ranked invited).map (·.bidder)).Nodup) :
    ∃ sample, Generator.Lawful { g with sample } ∧
      ¬ ((drawn { g with sample } settings ranked invited s).map (·.bidder)).Nodup := by
  rw [List.nodup_iff_getElem?_ne_getElem?] at hrepeats
  simp only [not_forall, not_not] at hrepeats
  obtain ⟨i, j, hij, hj, hsame⟩ := hrepeats
  rw [List.length_map] at hj
  have hi : i < (pool settings ranked invited).length := Nat.lt_trans hij hj
  rw [List.getElem?_map, List.getElem?_map, List.getElem?_eq_getElem hj,
    List.getElem?_eq_getElem hi] at hsame
  refine ⟨fun length amount s => (preferring [i, j] length amount, s),
    fun _ _ _ h => preferring_lawful _ h, ?_⟩
  rw [drawn, drawnPlaces, if_neg (by omega)]
  exact not_nodup_atPlaces (mem_preferring hslots (by simp) hi) (mem_preferring hslots (by simp) hj)
    (Nat.ne_of_lt hij) (List.getElem?_eq_getElem hi) (List.getElem?_eq_getElem hj)
    (Option.some_inj.mp hsame)

theorem nodup_drawn_iff (g : Generator σ) (settings : SelectionSettings)
    (ranked : List ScoredBidder) (invited : List Invitation) (s : σ) :
    (∀ sample, Generator.Lawful { g with sample } →
        ((drawn { g with sample } settings ranked invited s).map (·.bidder)).Nodup) ↔
      slots settings ranked invited ≤ 1 ∨
        ((pool settings ranked invited).map (·.bidder)).Nodup := by
  constructor
  · intro hall
    by_contra hrepeats
    rw [not_or, Nat.not_le] at hrepeats
    obtain ⟨sample, hlawful, htwice⟩ := exists_sample_repeats g s hrepeats.1 hrepeats.2
    exact htwice (hall sample hlawful)
  · rintro (hfew | hpool) sample hlawful
    · exact nodup_codes_of_length_le_one ((length_drawn hlawful invited s).symm ▸ hfew)
    · exact nodup_drawn hlawful invited s hpool

-- The steps before the slots draw no samples.
theorem withScorers_sample (g : Generator σ) (sample : Nat → Nat → σ → List Nat × σ)
    (settings : SelectionSettings) (line : List ScoredBidder) (invited : List Invitation) (s : σ) :
    withScorers { g with sample } settings line invited s =
      withScorers g settings line invited s := by
  induction line generalizing invited s with
  | nil => rfl
  | cons b line ih => simp only [withScorers, ih]

theorem scored_sample (g : Generator σ) (sample : Nat → Nat → σ → List Nat × σ)
    (settings : SelectionSettings) (anchors : List String) (scores : List ScoredBidder) (s : σ) :
    scored { g with sample } settings anchors scores s = scored g settings anchors scores s :=
  withScorers_sample g sample settings _ _ s

-- Nobody is invited twice, whatever is drawn for the slots, exactly if there is only one to fill or
-- the pool names nobody twice.
theorem choose_nodup_iff (g : Generator σ) (settings : SelectionSettings)
    (source : Option AnchorSource) (scores : List ScoredBidder) (o : Opportunity) (s : σ)
    (hbypass : settings.bypass = false) (hshadow : settings.shadow = false) :
    (∀ sample, Generator.Lawful { g with sample } →
        (choose { g with sample } settings source scores o s).1.bidders.Nodup) ↔
      slots settings (ScoredBidder.bestFirst scores)
          (covered g settings (anchorsOf settings source scores o) scores o.format s) ≤ 1 ∨
        ((pool settings (ScoredBidder.bestFirst scores)
          (covered g settings (anchorsOf settings source scores o) scores o.format s)).map
            (·.bidder)).Nodup := by
  have hcovered := (covered_grows_empty g settings (anchorsOf settings source scores o) scores
    o.format s).nodup .nil
  rw [← nodup_drawn_iff g settings _ _ (scored g settings (anchorsOf settings source scores o)
    scores s).2]
  refine forall_congr' fun sample => imp_congr_right fun _ => ?_
  rw [choose_eq_normal _ source scores o s hbypass hshadow,
    ← nodup_withSlots_iff { g with sample } _ hcovered]
  change (((invite { g with sample } settings (anchorsOf settings source scores o) scores o.format
    s).1.map (·.bidder)).Nodup ↔ _)
  rw [invite_eq, covered, scored_sample]
  rfl

-- One bidder of low confidence, listed twice.
def twiceListed : List ScoredBidder := [
  ⟨"acme", 10.0, .all 0.0, 0.1, none, 0⟩,
  ⟨"acme", 10.0, .all 0.0, 0.1, none, 0⟩]

-- With one slot it is invited once.
theorem choose_nodup_iff_oneSlot :
    (choose Stream.generator { explorationSlots := 1 } none twiceListed (.atTime ⟨0, 0⟩)
      (.ofSeed 7)).1.bidders.Nodup := by
  have hfew : slots { explorationSlots := 1 } (ScoredBidder.bestFirst twiceListed)
      (covered Stream.generator { explorationSlots := 1 } Anchors.standard twiceListed
        (Opportunity.atTime ⟨0, 0⟩).format (.ofSeed 7)) ≤ 1 :=
    Nat.le_trans (Nat.min_le_left _ _) (Nat.min_le_left _ _)
  exact (choose_nodup_iff Stream.generator { explorationSlots := 1 } none twiceListed
    (.atTime ⟨0, 0⟩) (.ofSeed 7) rfl rfl).mpr (.inl hfew) Stream.sample Stream.generator_lawful

theorem bestFirst_twiceListed : ScoredBidder.bestFirst twiceListed = twiceListed :=
  List.mergeSort_of_pairwise (by decide)

-- With two it is invited twice.
theorem choose_twiceListed_repeats :
    SelectionSettings.validate {} = .ok () ∧
      ¬ (choose Stream.generator {} none twiceListed (.atTime ⟨0, 0⟩)
          (.ofSeed 7)).1.bidders.Nodup := by
  refine ⟨by decide +kernel, ?_⟩
  simp only [choose, normal, invite, bestFirst_twiceListed]
  decide +kernel

end Selection
end DemandRouting
