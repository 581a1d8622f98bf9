import DemandRouting.Proofs.Json.Overlay
import DemandRouting.Routing.Settings

namespace DemandRouting

open Codec Json

namespace PerComponent

def kinds : List (String × (Json → Prop)) := [
  ("win_rate", IsNumber),
  ("bid_rate", IsNumber),
  ("cpm", IsNumber),
  ("floor_clearance", IsNumber),
  ("latency", IsNumber),
  ("recency", IsNumber),
  ("id_match", IsNumber)]

def overlay (v : Json) (base : PerComponent) : PerComponent where
  winRate := v.valueOr "win_rate" double base.winRate
  bidRate := v.valueOr "bid_rate" double base.bidRate
  cpm := v.valueOr "cpm" double base.cpm
  floorClearance := v.valueOr "floor_clearance" double base.floorClearance
  latency := v.valueOr "latency" double base.latency
  recency := v.valueOr "recency" double base.recency
  idMatch := v.valueOr "id_match" double base.idMatch

variable {blank : PerComponent}

theorem set_comm {c d : Component} (h : c ≠ d) (x y : Float) (p : PerComponent) :
    (p.set x c).set y d = (p.set y d).set x c := by
  cases c <;> cases d <;> first | rfl | exact absurd rfl h

theorem shape_free : (shape blank).Free where
  names := show (Component.all.map (·.name)).Nodup by decide
  commute := by
    have hne : Component.all.Pairwise (· ≠ ·) := by decide
    exact List.pairwise_map.mpr (hne.imp fun h => Field.commutes_of fun x y p => set_comm h x y p)
  optional := fun f hf => by
    obtain ⟨c, -, rfl⟩ := List.mem_map.mp hf
    rfl

theorem read_overlay {v : Json} (h : v.Conforms kinds) :
    (shape blank).read v = some (overlay v blank) := by
  have hgives := h.gives
  simp only [kinds, List.forall_mem_cons] at hgives
  rw [Shape.read_of_conforms shape_free (by rfl) h]
  simp only [shape, Component.all, Component.name, List.map_cons, List.map_nil, Shape.fill,
    Shape.inTurn, Field.putGiven_of double_accepts, implies_true, hgives, Option.bind_some, set,
    get, overlay]

def AllFinite (p : PerComponent) : Prop := ∀ c, (p.get c).isFinite = true

theorem restore_weight {p : PerComponent} (h : p.AllFinite) (c : Component)
    (fields : List (Field PerComponent)) (q : PerComponent) :
    Shape.restore (.of c.name double (fun p => p.get c) (fun x p => p.set x c) :: fields) p q =
      Shape.restore fields p (q.set (p.get c) c) := by
  have hc : (p.get c).isFinite = true := h c
  rw [Shape.restore_of double_faithful]
  exact hc

theorem shape_faithful : (shape blank).codec.Faithful AllFinite :=
  Shape.faithful shape_free.names fun p hp => by
    simp only [shape, Component.all, List.map_cons, List.map_nil, restore_weight hp,
      Shape.restore_nil]
    simp only [set, get]

end PerComponent

namespace IdPreferences

def kinds : List (String × (Json → Prop)) := [
  ("bidders", IsTableOf (IsListOf IsText)),
  ("default", IsListOf IsText)]

def overlay (v : Json) (base : IdPreferences) : IdPreferences where
  bidders := v.valueOr "bidders" (table (list text)) base.bidders
  standard := v.valueOr "default" (list text) base.standard

theorem shape_free : shape.Free where
  names := by decide
  commute := by simp [shape, Field.commutes_of]
  optional := by simp [shape, Field.of]

theorem read_overlay {v : Json} (h : v.Conforms kinds) :
    shape.read v = some (overlay v builtIn) := by
  have hgives := h.gives
  simp only [kinds, List.forall_mem_cons] at hgives
  rw [Shape.read_of_conforms shape_free (by rfl) h]
  simp only [shape, Shape.fill, Shape.inTurn, Field.putGiven_of (list_accepts text_accepts),
    Field.putGiven_of (table_accepts (list_accepts text_accepts)), implies_true, hgives,
    Option.bind_some, overlay]

@[simp] theorem shape_total : shape.codec.Total :=
  Shape.total shape_free.names fun p => by
    simp [shape, Shape.restore_of_total (table_total (list_total text_total))]

end IdPreferences

namespace ScoringSettings

def kinds : List (String × (Json → Prop)) := [
  ("weights", Conforms PerComponent.kinds),
  ("min_sample_size", IsWord),
  ("recency_min_samples", IsWord),
  ("id_preferences", Conforms IdPreferences.kinds)]

def overlay (v : Json) (base : ScoringSettings) : ScoringSettings where
  weights := PerComponent.overlay (v.part "weights") base.weights
  minSamples := v.valueOr "min_sample_size" word64 base.minSamples
  recencyMinSamples := v.valueOr "recency_min_samples" word64 base.recencyMinSamples
  idPreferences := IdPreferences.overlay (v.part "id_preferences") base.idPreferences

theorem shape_free : shape.Free where
  names := by decide
  commute := by simp [shape, Field.commutes_of]
  optional := by simp [shape, Field.of]

theorem read_overlay {v : Json} (h : v.Conforms kinds) : shape.read v = some (overlay v {}) := by
  have hgives := h.gives
  simp only [kinds, List.forall_mem_cons] at hgives
  have hweights : v.valueOr "weights" (PerComponent.shape Weights.standard).codec Weights.standard =
      PerComponent.overlay (v.part "weights") Weights.standard :=
    Shape.valueOr_part (fun _ => PerComponent.read_overlay) hgives.1 rfl
  have hids : v.valueOr "id_preferences" IdPreferences.shape.codec .builtIn =
      IdPreferences.overlay (v.part "id_preferences") .builtIn :=
    Shape.valueOr_part (fun _ => IdPreferences.read_overlay) hgives.2.2.2.1 rfl
  rw [Shape.read_of_conforms shape_free (by rfl) h]
  simp only [shape, Shape.fill, Shape.inTurn, Field.putGiven_of word64_accepts,
    Field.putGiven_of (Shape.accepts_of_read fun _ => PerComponent.read_overlay),
    Field.putGiven_of (Shape.accepts_of_read fun _ => IdPreferences.read_overlay),
    implies_true, hgives, Option.bind_some, hweights, hids, overlay]

theorem shape_faithful : shape.codec.Faithful fun s => s.weights.AllFinite :=
  Shape.faithful shape_free.names fun s hs => by
    simp [shape, Shape.restore_of PerComponent.shape_faithful hs]

end ScoringSettings

namespace SelectionSettings

def kinds : List (String × (Json → Prop)) := [
  ("bypass_enabled", IsBool),
  ("shadow_mode", IsBool),
  ("max_bidders", IsWord),
  ("min_score_threshold", IsNumber),
  ("exploration_rate", IsNumber),
  ("exploration_slots", IsWord),
  ("low_confidence_threshold", IsNumber),
  ("exploration_confidence_threshold", IsNumber),
  ("anchor_bidder_count", IsWord),
  ("diversity_enabled", IsBool),
  ("diversity_categories", IsListOf IsText),
  ("categories", IsTableOf (IsListOf IsText))]

def overlay (v : Json) (base : SelectionSettings) : SelectionSettings where
  bypass := v.valueOr "bypass_enabled" bool base.bypass
  shadow := v.valueOr "shadow_mode" bool base.shadow
  maxBidders := v.valueOr "max_bidders" word64 base.maxBidders
  minScore := v.valueOr "min_score_threshold" double base.minScore
  explorationRate := v.valueOr "exploration_rate" double base.explorationRate
  explorationSlots := v.valueOr "exploration_slots" word64 base.explorationSlots
  lowConfidence := v.valueOr "low_confidence_threshold" double base.lowConfidence
  slotConfidence := v.valueOr "exploration_confidence_threshold" double base.slotConfidence
  anchorCount := v.valueOr "anchor_bidder_count" word64 base.anchorCount
  diversity := v.valueOr "diversity_enabled" bool base.diversity
  diversityCategories := v.valueOr "diversity_categories" (list text) base.diversityCategories
  categories := v.valueOr "categories" (table (list text)) base.categories

theorem shape_free : shape.Free where
  names := by decide
  commute := by simp [shape, Field.commutes_of]
  optional := by simp [shape, Field.of]

theorem read_overlay {v : Json} (h : v.Conforms kinds) : shape.read v = some (overlay v {}) := by
  have hgives := h.gives
  simp only [kinds, List.forall_mem_cons] at hgives
  rw [Shape.read_of_conforms shape_free (by rfl) h]
  simp only [shape, Shape.fill, Shape.inTurn, Field.putGiven_of bool_accepts,
    Field.putGiven_of word64_accepts, Field.putGiven_of double_accepts,
    Field.putGiven_of (list_accepts text_accepts),
    Field.putGiven_of (table_accepts (list_accepts text_accepts)), implies_true, hgives,
    Option.bind_some, overlay]

structure AllFinite (s : SelectionSettings) : Prop where
  minScore : s.minScore.isFinite = true
  explorationRate : s.explorationRate.isFinite = true
  lowConfidence : s.lowConfidence.isFinite = true
  slotConfidence : s.slotConfidence.isFinite = true

theorem shape_faithful : shape.codec.Faithful AllFinite :=
  Shape.faithful shape_free.names fun s hs => by
    simp [shape, Shape.restore_of double_faithful hs.minScore,
      Shape.restore_of double_faithful hs.explorationRate,
      Shape.restore_of double_faithful hs.lowConfidence,
      Shape.restore_of double_faithful hs.slotConfidence,
      Shape.restore_of_total (table_total (list_total text_total))]

end SelectionSettings

namespace BlendSettings

def kinds : List (String × (Json → Prop)) := [
  ("realtime_weight", IsNumber),
  ("historical_weight", IsNumber),
  ("min_sample_size", IsWord),
  ("fetch_timeout_ms", IsWord)]

def overlay (v : Json) (base : BlendSettings) : BlendSettings where
  recentWeight := v.valueOr "realtime_weight" double base.recentWeight
  lifetimeWeight := v.valueOr "historical_weight" double base.lifetimeWeight
  minSamples := v.valueOr "min_sample_size" word64 base.minSamples
  fetchTimeoutMs := v.valueOr "fetch_timeout_ms" word64 base.fetchTimeoutMs

theorem shape_free : shape.Free where
  names := by decide
  commute := by simp [shape, Field.commutes_of]
  optional := by simp [shape, Field.of]

theorem read_overlay {v : Json} (h : v.Conforms kinds) : shape.read v = some (overlay v {}) := by
  have hgives := h.gives
  simp only [kinds, List.forall_mem_cons] at hgives
  rw [Shape.read_of_conforms shape_free (by rfl) h]
  simp only [shape, Shape.fill, Shape.inTurn, Field.putGiven_of word64_accepts,
    Field.putGiven_of double_accepts, implies_true, hgives, Option.bind_some, overlay]

structure AllFinite (s : BlendSettings) : Prop where
  recentWeight : s.recentWeight.isFinite = true
  lifetimeWeight : s.lifetimeWeight.isFinite = true

theorem shape_faithful : shape.codec.Faithful AllFinite :=
  Shape.faithful shape_free.names fun s hs => by
    simp [shape, Shape.restore_of double_faithful hs.recentWeight,
      Shape.restore_of double_faithful hs.lifetimeWeight]

end BlendSettings

namespace RouterSettings

def kinds : List (String × (Json → Prop)) := [
  ("selector", Conforms SelectionSettings.kinds),
  ("scorer", Conforms ScoringSettings.kinds),
  ("metrics", Conforms BlendSettings.kinds),
  ("base_seed", IsNullOr IsWord)]

def overlay (v : Json) (base : RouterSettings) : RouterSettings where
  selection := SelectionSettings.overlay (v.part "selector") base.selection
  scoring := ScoringSettings.overlay (v.part "scorer") base.scoring
  blend := BlendSettings.overlay (v.part "metrics") base.blend
  baseSeed := v.valueOr "base_seed" (option word64) base.baseSeed

theorem shape_free : shape.Free where
  names := by decide
  commute := by simp [shape, Field.commutes_of]
  optional := by simp [shape, Field.of]

theorem read_overlay {v : Json} (h : v.Conforms kinds) : shape.read v = some (overlay v {}) := by
  have hgives := h.gives
  simp only [kinds, List.forall_mem_cons] at hgives
  have hselection : v.valueOr "selector" SelectionSettings.shape.codec {} =
      SelectionSettings.overlay (v.part "selector") {} :=
    Shape.valueOr_part (fun _ => SelectionSettings.read_overlay) hgives.1 rfl
  have hscoring : v.valueOr "scorer" ScoringSettings.shape.codec {} =
      ScoringSettings.overlay (v.part "scorer") {} :=
    Shape.valueOr_part (fun _ => ScoringSettings.read_overlay) hgives.2.1 rfl
  have hblend : v.valueOr "metrics" BlendSettings.shape.codec {} =
      BlendSettings.overlay (v.part "metrics") {} :=
    Shape.valueOr_part (fun _ => BlendSettings.read_overlay) hgives.2.2.1 rfl
  rw [Shape.read_of_conforms shape_free (by rfl) h]
  simp only [shape, Shape.fill, Shape.inTurn, Field.putGiven_of (option_accepts word64_accepts),
    Field.putGiven_of (Shape.accepts_of_read fun _ => SelectionSettings.read_overlay),
    Field.putGiven_of (Shape.accepts_of_read fun _ => ScoringSettings.read_overlay),
    Field.putGiven_of (Shape.accepts_of_read fun _ => BlendSettings.read_overlay),
    implies_true, hgives, Option.bind_some, hselection, hscoring, hblend, overlay]

structure AllFinite (s : RouterSettings) : Prop where
  selection : s.selection.AllFinite
  weights : s.scoring.weights.AllFinite
  blend : s.blend.AllFinite

theorem shape_faithful : shape.codec.Faithful AllFinite :=
  Shape.faithful shape_free.names fun s hs => by
    simp [shape, Shape.restore_of SelectionSettings.shape_faithful hs.selection,
      Shape.restore_of ScoringSettings.shape_faithful hs.weights,
      Shape.restore_of BlendSettings.shape_faithful hs.blend]

-- The text of a value loads as what the value is read as.
theorem ofText_of_read {text : String} {v : Json} {s : RouterSettings}
    (htext : Json.read text = some v) (h : shape.read v = some s) : ofText text = .ok s := by
  simp only [ofText, htext, Option.bind_some, h]

-- Settings with finite floats load from what they are written as, and so they validate alike. An
-- object that gives any of the fields loads as the standard settings with those in their place.
theorem shape_overlays :
    (∀ s : RouterSettings, s.AllFinite →
      shape.read (shape.write s) = some s ∧
      (shape.read (shape.write s)).map validate = some s.validate ∧
      ∀ text, Json.read text = some (shape.write s) → ofText text = .ok s) ∧
    ∀ v : Json, v.Conforms kinds →
      shape.read v = some (overlay v {}) ∧
      ∀ text, Json.read text = some v → ofText text = .ok (overlay v {}) := by
  constructor
  · intro s hs
    have hread := Shape.read_write_of_faithful shape_faithful hs
    exact ⟨hread, congrArg (Option.map validate) hread, fun _ htext => ofText_of_read htext hread⟩
  · intro v hv
    have hread := read_overlay hv
    exact ⟨hread, fun _ htext => ofText_of_read htext hread⟩

theorem shape_overlays_fewFields :
    let seeded : RouterSettings := { baseSeed := some 9 }
    let selector : Json := .object [("max_bidders", .int 6), ("min_score_threshold", .float 15.5)]
    let scorer : Json := .object [("id_preferences", .object [("default", .list [])])]
    let given : Json := .object [("note", .bool true), ("selector", selector), ("scorer", scorer)]
    shape.read (shape.write seeded) = some seeded ∧
    shape.read given = some {
      selection := { maxBidders := 6, minScore := 15.5 }
      scoring := { idPreferences := { IdPreferences.builtIn with standard := [] } } } := by
  intro seeded selector scorer given
  have hweights : Weights.standard.AllFinite := fun c => by cases c <;> decide
  have hseeded : seeded.AllFinite :=
    ⟨⟨by decide, by decide, by decide, by decide⟩, hweights, ⟨by decide, by decide⟩⟩
  have hselector : selector.Conforms SelectionSettings.kinds :=
    ⟨_, rfl, by simp [selector, SelectionSettings.kinds, Gives, member?, IsWord, IsNumber]⟩
  have hids : Conforms IdPreferences.kinds (.object [("default", .list [])]) :=
    ⟨_, rfl, by simp [IdPreferences.kinds, Gives, member?, IsListOf]⟩
  have hscorer : scorer.Conforms ScoringSettings.kinds :=
    ⟨_, rfl, by simp [scorer, ScoringSettings.kinds, Gives, member?, hids]⟩
  have hgiven : given.Conforms kinds :=
    ⟨_, rfl, by simp [given, kinds, Gives, member?, hselector, hscorer]⟩
  exact ⟨(shape_overlays.1 seeded hseeded).1, (shape_overlays.2 given hgiven).1⟩

end RouterSettings
end DemandRouting
