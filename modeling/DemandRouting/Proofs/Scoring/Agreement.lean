import DemandRouting.Proofs.Number.Exact
import DemandRouting.Proofs.Number.Quotient
import DemandRouting.Proofs.Scoring.Range
import DemandRouting.Proofs.Sources.Levels

namespace DemandRouting

open Number (IsZero Same)

namespace Component

theorem isZero_bounded {x : Float} (h : IsZero x) : IsZero (bounded x) := by
  have hnumber := Number.isNaN_of_isZero h
  rwa [bounded, if_neg (Bool.not_eq_true _ ▸ hnumber), Number.clamp_of_isZero h (by decide)]

theorem same_bounded_mul {x y factor : Float} (h : Same x y) (hfactor : factor.isFinite = true) :
    Same (bounded (x * factor)) (bounded (y * factor)) :=
  h.map fun _ hz => isZero_bounded (Number.isZero_zero_mul hz hfactor)

theorem same_winRateScore {x y : Float} (h : Same x y) : Same (winRateScore x) (winRateScore y) :=
  same_bounded_mul h (by decide)

theorem same_bidRateScore {x y : Float} (h : Same x y) : Same (bidRateScore x) (bidRateScore y) :=
  same_bounded_mul h (by decide)

theorem same_cpmScore {x y : Float} (h : Same x y) (floor : Option Float) :
    Same (cpmScore x floor) (cpmScore y floor) := by
  apply h.map
  intro z hz
  unfold cpmScore
  split
  · exact isZero_bounded (Number.isZero_zero_mul hz (by decide))
  · rename_i floor hfloor
    have hpos : 0.0 < floor := of_decide_eq_true (Option.filter_eq_some_iff.mp hfloor).2
    rw [if_pos (Number.lt_of_isZero hz hpos)]
    exact isZero_bounded (Number.isZero_div (Number.isZero_mul_zero (by decide) hz) hpos)

theorem latencyScore_eq_of_same {x y : Float} (h : Same x y) : latencyScore x = latencyScore y := by
  have hzero : ∀ z, IsZero z → latencyScore z = 100.0 := fun z hz =>
    if_pos (Number.le_of_isZero hz (by decide))
  rcases h with rfl | ⟨hx, hy⟩
  · rfl
  · rw [hzero x hx, hzero y hy]

end Component

namespace Weights

theorem same_combine {w scores scores' : PerComponent} (hw : Valid w)
    (h : ∀ c, Same (scores.get c) (scores'.get c)) :
    Same (combine w scores) (combine w scores') := by
  have hterm : ∀ c, Same (w.get c * scores.get c) (w.get c * scores'.get c) :=
    fun c => (h c).map fun z hz => Number.isZero_mul_zero (hw.isFinite c) hz
  have htotal : Same (total (Component.all.map fun c => w.get c * scores.get c))
      (total (Component.all.map fun c => w.get c * scores'.get c)) := by
    rw [total, total, List.foldl_map, List.foldl_map]
    exact List.foldl_rel (.refl _) fun c _ x y hxy => hxy.add (hterm c)
  apply htotal.map
  intro z hz
  rwa [Number.clamp_of_isZero hz (by decide)]

end Weights

namespace ScoringInput

-- What the formulas cannot tell apart: they do not see the confidence.
structure Alike (i j : ScoringInput) : Prop where
  winRate : Same i.winRate j.winRate
  bidRate : Same i.bidRate j.bidRate
  averageBid : Same i.averageBid j.averageBid
  floorClearanceRate : i.floorClearanceRate = j.floorClearanceRate
  p95LatencyMs : Same i.p95LatencyMs j.p95LatencyMs
  recentWinRate : i.recentWinRate = j.recentWinRate
  lifetimeWinRate : i.lifetimeWinRate = j.lifetimeWinRate
  recentSamples : i.recentSamples = j.recentSamples
  key : i.key = j.key
  level : i.level = j.level

end ScoringInput

namespace ScoredBidder

-- The same but for the confidence. Numbers are compared as numbers, since weighing takes the sign
-- off a zero.
structure Agrees (a b : ScoredBidder) : Prop where
  bidder : a.bidder = b.bidder
  key : a.key = b.key
  level : a.level = b.level
  components : ∀ c, (a.components.get c == b.components.get c) = true
  total : (a.total == b.total) = true

section Alike

variable {i j : ScoringInput} (h : i.Alike j)

include h

theorem same_componentsOf (settings : ScoringSettings) (bidder : String) (o : Opportunity)
    (c : Component) :
    Same ((componentsOf settings bidder o i).get c) ((componentsOf settings bidder o j).get c) := by
  cases c with
  | winRate => exact Component.same_winRateScore h.winRate
  | bidRate => exact Component.same_bidRateScore h.bidRate
  | cpm => exact Component.same_cpmScore h.averageBid _
  | floorClearance => exact .inl (congrArg Component.floorClearanceScore h.floorClearanceRate)
  | latency => exact .inl (Component.latencyScore_eq_of_same h.p95LatencyMs)
  | recency =>
    simp only [PerComponent.get, componentsOf, h.recentWinRate, h.lifetimeWinRate, h.recentSamples]
    exact .refl _
  | idMatch =>
    unfold componentsOf PerComponent.get
    exact .refl _

theorem ofInput_agrees {settings : ScoringSettings} (hvalid : settings.validate = .ok ())
    (bidder : String) (o : Opportunity) :
    (ofInput settings bidder o i).Agrees (ofInput settings bidder o j) := by
  have hrange := ofInput_inRange hvalid bidder o i
  have hsame := same_componentsOf h settings bidder o
  refine ⟨rfl, h.key, h.level, fun c => ?_, ?_⟩
  · exact (hsame c).beq (hrange.components c).number
  · exact (Weights.same_combine (Weights.valid_of_validate hvalid) hsame).beq hrange.total.number

end Alike

-- The place of the first slice with enough samples, or of the last slice.
def placeOf (minSamples : UInt64) (samples : SliceKey → UInt64) (keys : List SliceKey) : Nat :=
  (keys.findIdx? fun key => minSamples ≤ samples key).getD (keys.length - 1)

section Place

variable {minSamples : UInt64} {samples : SliceKey → UInt64} {key : SliceKey}
  {broader : List SliceKey}

theorem placeOf_of_le (h : minSamples ≤ samples key) :
    placeOf minSamples samples (key :: broader) = 0 := by
  rw [placeOf, List.findIdx?_cons, if_pos (decide_eq_true h), Option.getD_some]

theorem placeOf_of_not_le (h : ¬ minSamples ≤ samples key) (hbroader : broader ≠ []) :
    placeOf minSamples samples (key :: broader) = placeOf minSamples samples broader + 1 := by
  have hlength := List.length_pos_iff.mpr hbroader
  rw [placeOf, placeOf, List.findIdx?_cons, if_neg (by simpa using h), List.length_cons]
  cases broader.findIdx? fun key => minSamples ≤ samples key with
  | none =>
    rw [Option.map_none, Option.getD_none, Option.getD_none]
    omega
  | some place => rfl

end Place

-- The level at a place in the list of slices, the first of which is number `start`.
structure IsAt (sources : Sources) (bidder : String) (start : Nat) (keys : List SliceKey)
    (place : Nat) (l : Level) : Prop where
  level : l.level = start + place
  key : keys[place]? = some l.key
  lifetime : l.lifetime = (sources.lifetime ⟨bidder, some l.key⟩).orEmpty

theorem settle?_eq (minSamples : UInt64) (sources : Sources) (bidder : String) (start delay : Nat)
    {keys : List SliceKey} (hkeys : keys ≠ []) :
    ∃ l, settle? minSamples sources bidder start delay keys = some l ∧
      IsAt sources bidder start keys (placeOf minSamples
        (fun key => (sources.lifetime ⟨bidder, some key⟩).orEmpty.samples) keys) l := by
  induction keys generalizing start delay with
  | nil => exact absurd rfl hkeys
  | cons key broader ih =>
    unfold settle?
    by_cases henough : minSamples ≤ (sources.lifetime ⟨bidder, some key⟩).orEmpty.samples
    · rw [placeOf_of_le henough]
      exact ⟨_, if_pos henough, rfl, rfl, rfl⟩
    · simp only [if_neg henough]
      by_cases hbroader : broader = []
      · subst hbroader
        exact ⟨_, rfl, by simp [placeOf, henough], by simp [placeOf, henough], rfl⟩
      · -- the reads go on, and something comes of them
        rw [placeOf_of_not_le henough hbroader]
        obtain ⟨l, hl, hat⟩ := ih (start + 1)
          (delay + (sources.lifetime ⟨bidder, some key⟩).delay) hbroader
        refine ⟨l, by rw [hl, Option.some_or], ?_, ?_, hat.lifetime⟩
        · rw [hat.level]
          omega
        · rw [List.getElem?_cons_succ, hat.key]

end ScoredBidder

-- What there is to an answer without samples.
structure Lifetime.Unheard (l : Lifetime) : Prop where
  bids : l.counters.bids = 0
  p95LatencyMs : (l.p95LatencyMs == 0.0) = true

namespace Snapshot

section Blend

variable {settings : BlendSettings} (hvalid : settings.Valid)

include hvalid

theorem alike_empty {lifetime : Lifetime} (hsamples : lifetime.samples = 0)
    (h : lifetime.Unheard) (bidder : String) (key : Option SliceKey) (level : Nat) :
    (ScoringInput.ofHistory lifetime {} key level).Alike
      (.ofSnapshot (blend settings bidder {} lifetime key level)) := by
  have hweighs : ¬ Weighs settings {} lifetime := by
    rintro (⟨hrecent, -⟩ | ⟨hlifetime, -⟩)
    · exact absurd hrecent (by decide)
    · rw [hsamples] at hlifetime
      exact absurd hlifetime (by decide)
  have hrequests : lifetime.counters.requests = 0 := hsamples
  have hwinRate : lifetime.counters.winRate = 0.0 := by
    rw [Counters.winRate, h.bids, Number.ratio_zero]
  have hbidRate : lifetime.counters.bidRate = 0.0 := by
    rw [Counters.bidRate, hrequests, Number.ratio_zero]
  have haverageBid : lifetime.counters.averageBid = 0.0 := by
    rw [Counters.averageBid, h.bids, Number.ratio_zero]
  have hfloorClearanceRate : lifetime.floorClearanceRate = 0.0 := by
    rw [Lifetime.floorClearanceRate, h.bids, Number.ratio_zero]
  rw [blend_of_not_weighs hvalid hweighs]
  exact {
    winRate := .inl hwinRate
    bidRate := .inl hbidRate
    averageBid := .inl haverageBid
    floorClearanceRate := hfloorClearanceRate
    p95LatencyMs := .inr ⟨Number.isZero_of_beq h.p95LatencyMs, Number.isZero_zero⟩
    recentWinRate := rfl
    lifetimeWinRate := hwinRate
    recentSamples := rfl
    key := rfl
    level := rfl }

variable (hpos : 0.0 < settings.lifetimeWeight)
  (hfinite : settings.lifetimeWeight.isFinite = true) {lifetime : Lifetime}

include hpos hfinite

theorem weights?_lifetime (hsamples : 0 < lifetime.samples) :
    weights? settings {} lifetime = some (0.0, 1.0) := by
  have hnotZero : ¬ settings.lifetimeWeight ≤ 0.0 :=
    (BlendSettings.zero_lt_weight_iff hvalid.lifetime).mp hpos
  have hsum : 0.0 + settings.lifetimeWeight = settings.lifetimeWeight := by
    apply Number.zero_add_eq Number.isZero_zero
    intro hzero
    exact hnotZero (Number.le_of_isZero hzero (by decide))
  have hempty : ¬ 0 < ({} : Recent).samples := by decide
  simp only [weights?, if_neg hempty, if_pos hsamples, hsum, if_neg hnotZero,
    Number.div_self hpos hfinite, Number.zero_div hpos hfinite]

theorem alike_weighed (hsamples : 0 < lifetime.samples) (bidder : String)
    (key : Option SliceKey) (level : Nat) :
    (ScoringInput.ofHistory lifetime {} key level).Alike
      (.ofSnapshot (blend settings bidder {} lifetime key level)) := by
  have hnothing : (0.0 : Float) * 0.0 = 0.0 := by rfl
  have hweighted : ∀ x : Float, Same x (0.0 * 0.0 + 1.0 * x) := by
    intro x
    rw [hnothing, Number.one_mul]
    exact Number.same_zero_add x
  rw [blend, weights?_lifetime hvalid hpos hfinite hsamples]
  exact {
    winRate := hweighted _
    bidRate := hweighted _
    averageBid := hweighted _
    floorClearanceRate := rfl
    p95LatencyMs := hweighted _
    recentWinRate := rfl
    lifetimeWinRate := rfl
    recentSamples := rfl
    key := rfl
    level := rfl }

theorem blend_alike (hunheard : lifetime.samples = 0 → lifetime.Unheard) (bidder : String)
    (key : Option SliceKey) (level : Nat) :
    (ScoringInput.ofHistory lifetime {} key level).Alike
      (.ofSnapshot (blend settings bidder {} lifetime key level)) := by
  by_cases hsamples : lifetime.samples = 0
  · exact alike_empty hvalid hsamples (hunheard hsamples) bidder key level
  · exact alike_weighed hvalid hpos hfinite (UInt64.pos_iff_ne_zero.mpr hsamples) bidder key level

end Blend

end Snapshot

-- The short window is empty, and the answers of the history all come in time, with nothing in those
-- that have no samples. A failed read is such an answer.
structure Sources.OnlyHistory (sources : Sources) (limit : UInt64) (bidder : String) : Prop where
  recent : ∀ key, (sources.recent ⟨bidder, key⟩).orEmpty = {}
  inTime : ∀ key, (sources.lifetime ⟨bidder, key⟩).delay ≤ limit.toNat
  unheard : ∀ key, (sources.lifetime ⟨bidder, key⟩).orEmpty.samples = 0 →
    (sources.lifetime ⟨bidder, key⟩).orEmpty.Unheard

section OnlyHistory

variable {settings : BlendSettings} {sources : Sources} {bidder : String}
  (h : sources.OnlyHistory settings.fetchTimeoutMs bidder)

include h

theorem usable_recent (key : Option SliceKey) :
    (sources.recent ⟨bidder, key⟩).usable settings.fetchTimeoutMs = {} := by
  unfold Reading.usable
  split
  · rfl
  · exact h.recent key

theorem usable_lifetime (key : Option SliceKey) :
    (sources.lifetime ⟨bidder, key⟩).usable settings.fetchTimeoutMs =
      (sources.lifetime ⟨bidder, key⟩).orEmpty :=
  if_neg (Nat.not_lt.mpr (h.inTime key))

theorem readLevel_samples (key : Option SliceKey) :
    (Snapshot.readLevel settings sources bidder key).samples =
      (sources.lifetime ⟨bidder, key⟩).orEmpty.samples := by
  rw [Snapshot.LevelRead.samples, Snapshot.readLevel_recent, Snapshot.readLevel_lifetime,
    usable_recent h, usable_lifetime h]
  exact UInt64.zero_add _

-- Gathering chooses the same place, though it looks at all of them.
theorem gather_placeOf (o : Opportunity) :
    (Snapshot.gather settings sources bidder (some o)).snapshot.level =
      ScoredBidder.placeOf settings.minSamples
        (fun key => (sources.lifetime ⟨bidder, some key⟩).orEmpty.samples)
        (SliceKey.ofOpportunity o).fallback := by
  rw [Snapshot.gather_level, Snapshot.chooseLevel_map]
  simp only [Snapshot.levels, List.findIdx?_map, List.length_map, Function.comp_def,
    readLevel_samples h]
  rfl

theorem gather_blended (o : Option Opportunity) :
    (Snapshot.gather settings sources bidder o).snapshot =
      Snapshot.blend settings bidder {}
        (sources.lifetime
          ⟨bidder, (Snapshot.gather settings sources bidder o).snapshot.key⟩).orEmpty
        (Snapshot.gather settings sources bidder o).snapshot.key
        (Snapshot.gather settings sources bidder o).snapshot.level := by
  have hblended := (Snapshot.gather_fromOwnReads settings sources bidder o).blended
  rwa [usable_recent h, usable_lifetime h] at hblended

end OnlyHistory

namespace ScoredBidder

-- Whether or not the trend is asked for, since there is none.
theorem fetch_agrees (settings : ScoringSettings) (hsettings : settings.validate = .ok ())
    (blend : BlendSettings) (hblend : blend.validate = .ok ())
    (hsamples : settings.minSamples = blend.minSamples) (hpos : 0.0 < blend.lifetimeWeight)
    (hfinite : blend.lifetimeWeight.isFinite = true) (sources : Sources) (bidder : String)
    (hsources : sources.OnlyHistory blend.fetchTimeoutMs bidder) (withRecent : Bool)
    (o : Opportunity) :
    (fetch settings sources withRecent bidder o).score.Agrees
      (ofSnapshot settings bidder o (Snapshot.gather blend sources bidder (some o)).snapshot) := by
  have hchain : (SliceKey.ofOpportunity o).fallback ≠ [] := by
    have hlevels := Snapshot.levels_ne_nil (some o)
    rwa [Snapshot.levels, Ne, List.map_eq_nil_iff] at hlevels
  obtain ⟨l, hl, hat⟩ := settle?_eq settings.minSamples sources bidder 0 0 hchain
  have hrecent : (if withRecent then sources.recent ⟨bidder, some l.key⟩
      else .immediate {}).orEmpty = {} := by
    split
    · exact hsources.recent _
    · rfl
  have hlevel : (Snapshot.gather blend sources bidder (some o)).snapshot.level = l.level := by
    rw [gather_placeOf hsources, hat.level, Nat.zero_add, hsamples]
  have hkey : (Snapshot.gather blend sources bidder (some o)).snapshot.key = some l.key := by
    have hread := (Snapshot.gather_fromOwnReads blend sources bidder (some o)).level
    rw [hlevel, hat.level, Nat.zero_add, Snapshot.levels, List.getElem?_map, hat.key] at hread
    exact (Option.some.inj hread).symm
  have hblended := gather_blended hsources (some o)
  rw [hlevel, hkey] at hblended
  have hscore : (fetch settings sources withRecent bidder o).score =
      ofInput settings bidder o (.ofHistory l.lifetime {} (some l.key) l.level) := by
    simp only [fetch, hl, hrecent]
  rw [hscore, hblended, hat.lifetime]
  apply ofInput_agrees _ hsettings
  exact Snapshot.blend_alike (BlendSettings.valid_of_validate hblend) hpos hfinite
    (hsources.unheard _) bidder _ _

-- A few requests for the size alone, and enough for all sizes.
def sizedHistory : Sources where
  recent _ := .immediate {}
  lifetime id := .immediate
    { counters :=
        { requests := if (id.key.bind (·.size)).isSome then 40 else 400
          bids := 30
          wins := 7
          totalBidValue := (Money.make? 4525 2).getD .zero }
      floorClearances := 20
      p95LatencyMs := 120.5 }

theorem onlyHistory_sizedHistory (limit : UInt64) (bidder : String) :
    sizedHistory.OnlyHistory limit bidder where
  recent _ := rfl
  inTime _ := Nat.zero_le _
  unheard key hsamples := by
    change (if (key.bind (·.size)).isSome then (40 : UInt64) else 400) = 0 at hsamples
    split at hsamples <;> cases hsamples

theorem fetch_agrees_sizedHistory :
    let o := { Opportunity.atTime ⟨0, 0⟩ with sizes := [⟨300, 250⟩] }
    let score := (fetch {} sizedHistory true "acme" o).score
    ScoringSettings.validate {} = .ok () ∧ BlendSettings.validate {} = .ok () ∧
      sizedHistory.OnlyHistory 20 "acme" ∧
      score.Agrees
        (ofSnapshot {} "acme" o (Snapshot.gather {} sizedHistory "acme" (some o)).snapshot) ∧
      score.level = 1 := by
  intro o score
  have hsettings : ScoringSettings.validate {} = .ok () := Weights.validate_standard
  have hblend : BlendSettings.validate {} = .ok () := by decide
  have hsources := onlyHistory_sizedHistory 20 "acme"
  exact ⟨hsettings, hblend, hsources,
    fetch_agrees {} hsettings {} hblend rfl (by decide) (by decide) sizedHistory "acme" hsources
      true o, by decide +kernel⟩

end ScoredBidder
end DemandRouting
