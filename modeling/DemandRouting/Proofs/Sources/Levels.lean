import DemandRouting.Proofs.Number.Sign
import DemandRouting.Proofs.Sources.Degradation

namespace DemandRouting

namespace BlendSettings

structure Valid (settings : BlendSettings) : Prop where
  recent : isBadWeight settings.recentWeight = false
  lifetime : isBadWeight settings.lifetimeWeight = false
  sum : ¬ settings.recentWeight + settings.lifetimeWeight ≤ 0.0

theorem valid_of_validate {settings : BlendSettings} (h : settings.validate = .ok ()) :
    settings.Valid := by
  unfold validate at h
  split at h
  · cases h
  rename_i hrecent
  split at h
  · cases h
  rename_i hlifetime
  split at h
  · cases h
  rename_i hsum
  exact ⟨Bool.eq_false_iff.mpr hrecent, Bool.eq_false_iff.mpr hlifetime, hsum⟩

section Weight

variable {w : Float}

theorem zero_lt_weight_iff (h : isBadWeight w = false) : 0.0 < w ↔ ¬ w ≤ 0.0 :=
  Number.zero_lt_iff (Bool.or_eq_false_iff.mp h).2

theorem isZero_of_weight_le (h : isBadWeight w = false) (hle : w ≤ 0.0) : Number.IsZero w := by
  have hlt : ¬ w < 0.0 := of_decide_eq_false (Bool.or_eq_false_iff.mp h).1
  exact Number.isZero_of_beq (Number.beq_of_le hle hlt)

end Weight

-- One of the weights is above zero, since two zeros do not sum up to anything.
theorem Valid.weight_pos {settings : BlendSettings} (h : settings.Valid) :
    0.0 < settings.recentWeight ∨ 0.0 < settings.lifetimeWeight := by
  rw [zero_lt_weight_iff h.recent, zero_lt_weight_iff h.lifetime, ← not_and_or]
  rintro ⟨hrecent, hlifetime⟩
  have hrecentZero := isZero_of_weight_le h.recent hrecent
  have hlifetimeZero := isZero_of_weight_le h.lifetime hlifetime
  exact h.sum (Number.add_zeros_le_zero hrecentZero hlifetimeZero)

end BlendSettings

namespace Snapshot

-- What a search along `levels` ends with, for the number of samples of each.
structure Searched (need : Nat) (samples : Option SliceKey → Nat) (levels : List (Option SliceKey))
    (level : Nat) (key : Option SliceKey) : Prop where
  atLevel : levels[level]? = some key
  -- a level with enough samples if there is one, and no such level is before it
  enough : (∃ k ∈ levels, need ≤ samples k) → need ≤ samples key
  first : ∀ (i : Nat) (k : Option SliceKey), levels[i]? = some k → need ≤ samples k → level ≤ i
  -- the last level otherwise
  last : (∀ k ∈ levels, samples k < need) → level + 1 = levels.length

theorem searched_findIdx? {need : Nat} {samples : Option SliceKey → Nat}
    {levels : List (Option SliceKey)} {reaches : Option SliceKey → Bool} {key : Option SliceKey}
    (hreaches : ∀ k ∈ levels, reaches k = true ↔ need ≤ samples k)
    (hkey : levels[(levels.findIdx? reaches).getD (levels.length - 1)]? = some key) :
    Searched need samples levels ((levels.findIdx? reaches).getD (levels.length - 1)) key := by
  obtain ⟨hlt, hget⟩ := List.getElem?_eq_some_iff.mp hkey
  cases hfound : levels.findIdx? reaches with
  | none =>
    have hnone : ∀ k ∈ levels, ¬ need ≤ samples k := by
      intro k hk hle
      have hfalse := List.findIdx?_eq_none_iff.mp hfound k hk
      exact Bool.false_ne_true (hfalse.symm.trans ((hreaches k hk).mpr hle))
    rw [hfound, Option.getD_none] at hkey hlt
    refine ⟨hkey, ?_, fun i k hi hle => ?_, fun _ => ?_⟩
    · rintro ⟨k, hk, hle⟩
      exact absurd hle (hnone k hk)
    · exact absurd hle (hnone k (List.mem_of_getElem? hi))
    · rw [Option.getD_none]
      omega
  | some level =>
    obtain ⟨hlevel, hreached, hbefore⟩ := List.findIdx?_eq_some_iff_getElem.mp hfound
    simp only [hfound, Option.getD_some] at hkey hget
    rw [hget] at hreached
    have henough := (hreaches key (List.mem_of_getElem? hkey)).mp hreached
    refine ⟨hkey, fun _ => henough, fun i k hi hle => Nat.not_lt.mp fun hi' => ?_, fun hnone => ?_⟩
    · obtain ⟨_, rfl⟩ := List.getElem?_eq_some_iff.mp hi
      exact hbefore i hi' ((hreaches _ (List.getElem_mem _)).mpr hle)
    · exact absurd henough (Nat.not_le.mpr (hnone key (List.mem_of_getElem? hkey)))

theorem chooseLevel_map (minSamples : UInt64) (read : Option SliceKey → LevelRead)
    (levels : List (Option SliceKey)) :
    chooseLevel minSamples (levels.map read) =
      (levels.findIdx? fun k => minSamples ≤ (read k).samples).getD (levels.length - 1) := by
  rw [chooseLevel, List.findIdx?_map, List.length_map]
  rfl

-- The samples of both windows of a slice, as far as they come in time.
def samplesAt (settings : BlendSettings) (sources : Sources) (bidder : String)
    (key : Option SliceKey) : Nat :=
  ((sources.recent ⟨bidder, key⟩).usable settings.fetchTimeoutMs).samples.toNat +
    ((sources.lifetime ⟨bidder, key⟩).usable settings.fetchTimeoutMs).samples.toNat

-- The samples of no level are too many for a word.
def SamplesFit (settings : BlendSettings) (sources : Sources) (bidder : String)
    (o : Option Opportunity) : Prop :=
  ∀ key ∈ levels o, samplesAt settings sources bidder key < 2 ^ 64

instance (settings : BlendSettings) (sources : Sources) (bidder : String)
    (o : Option Opportunity) : Decidable (SamplesFit settings sources bidder o) :=
  inferInstanceAs (Decidable (∀ key ∈ levels o, samplesAt settings sources bidder key < 2 ^ 64))

section Gather

variable {settings : BlendSettings} {sources : Sources} {bidder : String} {o : Option Opportunity}

theorem gather_level :
    (gather settings sources bidder o).snapshot.level =
      chooseLevel settings.minSamples ((levels o).map (readLevel settings sources bidder)) := by
  have hchosen := chooseLevel_levels_lt settings.minSamples o (readLevel settings sources bidder)
  simp only [gather, ofReads, List.getElem?_map, List.getElem?_eq_getElem hchosen,
    Option.map_some, blend_level]

theorem toNat_samples {key : Option SliceKey}
    (hfits : samplesAt settings sources bidder key < 2 ^ 64) :
    (readLevel settings sources bidder key).samples.toNat =
      samplesAt settings sources bidder key := by
  rw [LevelRead.samples, readLevel_recent, readLevel_lifetime, UInt64.toNat_add]
  exact Nat.mod_eq_of_lt hfits

theorem gather_searched (hfits : SamplesFit settings sources bidder o) :
    Searched settings.minSamples.toNat (samplesAt settings sources bidder) (levels o)
      (gather settings sources bidder o).snapshot.level
      (gather settings sources bidder o).snapshot.key := by
  have hlevel := (gather_fromOwnReads settings sources bidder o).level
  rw [gather_level, chooseLevel_map] at hlevel ⊢
  apply searched_findIdx? _ hlevel
  intro key hkey
  rw [decide_eq_true_eq, UInt64.le_iff_toNat_le, toNat_samples (hfits key hkey)]

end Gather

-- A window that has samples is given a weight.
def Weighs (settings : BlendSettings) (recent : Recent) (lifetime : Lifetime) : Prop :=
  0 < recent.samples ∧ 0.0 < settings.recentWeight ∨
    0 < lifetime.samples ∧ 0.0 < settings.lifetimeWeight

theorem weights?_eq_none_iff {settings : BlendSettings} (h : settings.Valid) (recent : Recent)
    (lifetime : Lifetime) :
    weights? settings recent lifetime = none ↔ ¬ Weighs settings recent lifetime := by
  have hsum : weights? settings recent lifetime = none ↔
      (if 0 < recent.samples then settings.recentWeight else 0.0) +
        (if 0 < lifetime.samples then settings.lifetimeWeight else 0.0) ≤ 0.0 := by
    simp [weights?]
  rw [hsum, Weighs]
  by_cases hr : 0 < recent.samples <;> by_cases hl : 0 < lifetime.samples
  · -- the settings were let through by a test of this very sum
    rw [if_pos hr, if_pos hl]
    exact iff_of_false h.sum (not_not.mpr (h.weight_pos.imp (⟨hr, ·⟩) (⟨hl, ·⟩)))
  · rw [if_pos hr, if_neg hl, Number.add_zero_le_zero_iff]
    simp [hr, hl, BlendSettings.zero_lt_weight_iff h.recent]
  · rw [if_neg hr, if_pos hl, Number.zero_add_le_zero_iff]
    simp [hr, hl, BlendSettings.zero_lt_weight_iff h.lifetime]
  · rw [if_neg hr, if_neg hl]
    exact iff_of_true (Number.add_zeros_le_zero Number.isZero_zero Number.isZero_zero)
      (by simp [hr, hl])

-- Nothing weighed is nothing known.
theorem blend_of_not_weighs {settings : BlendSettings} (h : settings.Valid) {recent : Recent}
    {lifetime : Lifetime} (hweighs : ¬ Weighs settings recent lifetime) (bidder : String)
    (key : Option SliceKey) (level : Nat) :
    blend settings bidder recent lifetime key level = empty bidder key level := by
  rw [blend, (weights?_eq_none_iff h recent lifetime).mpr hweighs]

theorem blend_of_weighs {settings : BlendSettings} (h : settings.Valid) {recent : Recent}
    {lifetime : Lifetime} (hweighs : Weighs settings recent lifetime) (bidder : String)
    (key : Option SliceKey) (level : Nat) :
    (blend settings bidder recent lifetime key level).totalRequests =
        recent.samples + lifetime.samples ∧
      (blend settings bidder recent lifetime key level).confidence =
        confidenceOf (recent.samples + lifetime.samples) := by
  cases hw : weights? settings recent lifetime with
  | none => exact absurd hweighs ((weights?_eq_none_iff h recent lifetime).mp hw)
  | some weights =>
    rw [blend, hw]
    exact ⟨rfl, rfl⟩

theorem confidenceOf_pos {samples : UInt64} (h : samples ≠ 0) : 0.0 < confidenceOf samples := by
  rw [confidenceOf, if_neg h]
  split
  · decide
  split
  · decide
  split
  · decide
  split
  · decide
  · decide

def WeighsAt (settings : BlendSettings) (sources : Sources) (bidder : String)
    (key : Option SliceKey) : Prop :=
  Weighs settings ((sources.recent ⟨bidder, key⟩).usable settings.fetchTimeoutMs)
    ((sources.lifetime ⟨bidder, key⟩).usable settings.fetchTimeoutMs)

-- The samples of the level that was read are shown, and with enough of them there is confidence.
structure Yields (settings : BlendSettings) (sources : Sources) (bidder : String) (x : Snapshot) :
    Prop where
  samples : x.totalRequests.toNat = samplesAt settings sources bidder x.key
  enough : settings.minSamples ≤ x.totalRequests
  confident : 0.0 < x.confidence

section Gather

variable {settings : BlendSettings} {sources : Sources} {bidder : String} {o : Option Opportunity}

theorem gather_of_not_weighs (h : settings.Valid)
    (hweighs : ¬ WeighsAt settings sources bidder (gather settings sources bidder o).snapshot.key) :
    (gather settings sources bidder o).snapshot =
      empty bidder (gather settings sources bidder o).snapshot.key
        (gather settings sources bidder o).snapshot.level := by
  have hblended := (gather_fromOwnReads settings sources bidder o).blended
  rwa [blend_of_not_weighs h hweighs] at hblended

theorem gather_of_weighs (h : settings.Valid) (hfits : SamplesFit settings sources bidder o)
    (hweighs : WeighsAt settings sources bidder (gather settings sources bidder o).snapshot.key) :
    (gather settings sources bidder o).snapshot.totalRequests.toNat =
        samplesAt settings sources bidder (gather settings sources bidder o).snapshot.key ∧
      (gather settings sources bidder o).snapshot.totalRequests ≠ 0 ∧
      0.0 < (gather settings sources bidder o).snapshot.confidence := by
  have hreads := gather_fromOwnReads settings sources bidder o
  generalize (gather settings sources bidder o).snapshot = x at hreads hweighs ⊢
  obtain ⟨htotal, hconfidence⟩ := blend_of_weighs h hweighs bidder x.key x.level
  rw [← hreads.blended] at htotal hconfidence
  have hsamples : x.totalRequests.toNat = samplesAt settings sources bidder x.key := by
    rw [htotal, UInt64.toNat_add]
    exact Nat.mod_eq_of_lt (hfits x.key (List.mem_of_getElem? hreads.level))
  have hpos : 0 < samplesAt settings sources bidder x.key := by
    rcases hweighs with ⟨hrecent, -⟩ | ⟨hlifetime, -⟩
    · exact Nat.add_pos_left (UInt64.lt_iff_toNat_lt.mp hrecent) _
    · exact Nat.add_pos_right _ (UInt64.lt_iff_toNat_lt.mp hlifetime)
  have hne : x.totalRequests ≠ 0 := by
    intro hzero
    rw [hzero] at hsamples
    exact Nat.ne_of_gt hpos hsamples.symm
  refine ⟨hsamples, hne, ?_⟩
  rw [hconfidence, ← htotal]
  exact confidenceOf_pos hne

end Gather

-- A level with enough samples yields them exactly if one of its windows with samples has a weight,
-- and only otherwise nothing is known.
theorem gather_yields_iff (settings : BlendSettings) (hvalid : settings.validate = .ok ())
    (sources : Sources) (bidder : String) (o : Option Opportunity)
    (hfits : SamplesFit settings sources bidder o) :
    let x := (gather settings sources bidder o).snapshot
    Searched settings.minSamples.toNat (samplesAt settings sources bidder) (levels o) x.level
        x.key ∧
      (1 ≤ settings.minSamples →
        (∃ key ∈ levels o, settings.minSamples.toNat ≤ samplesAt settings sources bidder key) →
          (Yields settings sources bidder x ↔ WeighsAt settings sources bidder x.key)) ∧
      (x = empty bidder x.key x.level ↔ ¬ WeighsAt settings sources bidder x.key) := by
  intro x
  have hsearched := gather_searched hfits
  have h := BlendSettings.valid_of_validate hvalid
  refine ⟨hsearched, fun hneed hreached => ⟨fun hyields => ?_, fun hweighs => ?_⟩, fun hempty => ?_,
    gather_of_not_weighs h⟩
  · -- an empty snapshot has too few samples
    by_contra hweighs
    have hnone : x.totalRequests = 0 := congrArg totalRequests (gather_of_not_weighs h hweighs)
    have henough := UInt64.le_trans hneed hyields.enough
    rw [hnone] at henough
    exact absurd henough (by decide)
  · obtain ⟨hsamples, -, hconfident⟩ := gather_of_weighs h hfits hweighs
    refine ⟨hsamples, ?_, hconfident⟩
    rw [UInt64.le_iff_toNat_le, hsamples]
    exact hsearched.enough hreached
  · intro hweighs
    obtain ⟨-, hne, -⟩ := gather_of_weighs h hfits hweighs
    exact hne (congrArg totalRequests hempty)

-- The same numbers of samples of every slice.
def fixedSamples (recent lifetime : UInt64) : Sources where
  recent _ := .immediate { counters := { requests := recent } }
  lifetime _ := .immediate { counters := { requests := lifetime } }

theorem gather_yields_iff_oneWeight :
    let settings : BlendSettings := { recentWeight := 0.0, lifetimeWeight := 1.0 }
    let x := (gather settings (fixedSamples 60 50) "alpha" none).snapshot
    settings.validate = .ok () ∧ Yields settings (fixedSamples 60 50) "alpha" x ∧
      x.totalRequests.toNat = 110 := by
  intro settings x
  have hvalid : settings.validate = .ok () := by decide
  obtain ⟨-, hyields, -⟩ :=
    gather_yields_iff settings hvalid (fixedSamples 60 50) "alpha" none (by decide)
  have h := (hyields (by decide) (by decide)).mpr (.inr ⟨by decide, by decide⟩)
  exact ⟨hvalid, h, h.samples⟩

-- Enough samples, all in the window that has no weight: the level is chosen, and nothing is shown.
theorem gather_unweighted_hidden :
    let settings : BlendSettings := { recentWeight := 0.0, lifetimeWeight := 1.0 }
    let sources := fixedSamples 100 0
    let x := (gather settings sources "alpha" none).snapshot
    settings.validate = .ok () ∧ SamplesFit settings sources "alpha" none ∧
      1 ≤ settings.minSamples ∧
      (∃ key ∈ levels none, settings.minSamples.toNat ≤ samplesAt settings sources "alpha" key) ∧
      samplesAt settings sources "alpha" x.key = 100 ∧ x = empty "alpha" none 0 ∧
      ¬ Yields settings sources "alpha" x := by
  intro settings sources x
  have hempty : x = empty "alpha" none 0 := by decide
  refine ⟨by decide, by decide, by decide, by decide, by decide, hempty, fun hyields => ?_⟩
  exact absurd (hempty ▸ hyields.samples) (by decide)

end Snapshot
end DemandRouting
