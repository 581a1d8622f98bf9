import DemandRouting.Proofs.Performance.History
import DemandRouting.Proofs.Sources.Cancellation

namespace DemandRouting

section Usable

variable {α : Type} [Inhabited α]

-- What there is of a read after `limit`: no data if it takes longer or has failed.
def Reading.usable (limit : UInt64) (r : Reading α) : α :=
  if limit.toNat < r.delay then default
  else match r.result with
    | .ok a => a
    | .error _ => default

theorem Reading.orEmpty_within (limit : UInt64) (r : Reading α) :
    (r.within limit).orEmpty = r.usable limit := by
  unfold within usable
  by_cases hlate : limit.toNat < r.delay
  · rw [if_neg (Nat.not_le.mpr hlate), if_pos hlate]
    rfl
  · rw [if_pos (Nat.not_lt.mp hlate), if_neg hlate]
    rfl

theorem Reading.usable_immediate (limit : UInt64) (a : α) : (immediate a).usable limit = a := by
  have hnow : ¬ limit.toNat < (immediate a).delay := Nat.not_lt_zero _
  rw [usable, if_neg hnow]
  rfl

end Usable

-- The sources that answer at once with what is usable of the answers of `s`.
def Sources.settled (limit : UInt64) (s : Sources) : Sources where
  recent id := .immediate ((s.recent id).usable limit)
  lifetime id := .immediate ((s.lifetime id).usable limit)

-- Sources that give the same reads of a bidder.
def Sources.AgreeOn (bidder : String) (s s' : Sources) : Prop :=
  ∀ key, s.recent ⟨bidder, key⟩ = s'.recent ⟨bidder, key⟩ ∧
    s.lifetime ⟨bidder, key⟩ = s'.lifetime ⟨bidder, key⟩

namespace Snapshot

theorem readLevel_recent (settings : BlendSettings) (sources : Sources) (bidder : String)
    (key : Option SliceKey) :
    (readLevel settings sources bidder key).recent =
      (sources.recent ⟨bidder, key⟩).usable settings.fetchTimeoutMs :=
  Reading.orEmpty_within _ _

theorem readLevel_lifetime (settings : BlendSettings) (sources : Sources) (bidder : String)
    (key : Option SliceKey) :
    (readLevel settings sources bidder key).lifetime =
      (sources.lifetime ⟨bidder, key⟩).usable settings.fetchTimeoutMs :=
  Reading.orEmpty_within _ _

def LevelRead.atOnce (r : LevelRead) : LevelRead := { r with delay := 0 }

theorem readLevel_settled (settings : BlendSettings) (sources : Sources) (bidder : String)
    (key : Option SliceKey) :
    (readLevel settings (sources.settled settings.fetchTimeoutMs) bidder key).atOnce =
      (readLevel settings sources bidder key).atOnce := by
  simp only [LevelRead.atOnce, readLevel_recent, readLevel_lifetime, Sources.settled,
    Reading.usable_immediate]
  rfl

theorem readLevel_congr {sources sources' : Sources} {bidder : String}
    (h : sources.AgreeOn bidder sources') (settings : BlendSettings) (key : Option SliceKey) :
    readLevel settings sources bidder key = readLevel settings sources' bidder key := by
  simp only [readLevel, (h key).1, (h key).2]

theorem chooseLevel_atOnce (minSamples : UInt64) (reads : List LevelRead) :
    chooseLevel minSamples (reads.map .atOnce) = chooseLevel minSamples reads := by
  rw [chooseLevel, List.findIdx?_map, List.length_map]
  rfl

theorem ofReads_atOnce (settings : BlendSettings) (bidder : String) (reads : List LevelRead) :
    ofReads settings bidder (reads.map .atOnce) = ofReads settings bidder reads := by
  simp only [ofReads, chooseLevel_atOnce, List.getElem?_map]
  cases reads[chooseLevel settings.minSamples reads]? <;> rfl

theorem chooseLevel_lt (minSamples : UInt64) {reads : List LevelRead} (h : reads ≠ []) :
    chooseLevel minSamples reads < reads.length := by
  unfold chooseLevel
  cases hfound : reads.findIdx? fun r => minSamples ≤ r.samples with
  | none => exact Nat.sub_lt (List.length_pos_iff.mpr h) Nat.one_pos
  | some i =>
    obtain ⟨hi, _⟩ := List.findIdx?_eq_some_iff_getElem.mp hfound
    exact hi

-- There is always a level to choose.
theorem levels_ne_nil (o : Option Opportunity) : levels o ≠ [] := by
  cases o with
  | none => exact List.cons_ne_nil _ _
  | some o =>
    have hself : SliceKey.ofOpportunity o ∈ (SliceKey.ofOpportunity o).fallback :=
      SliceKey.mem_fallback_iff.mpr ⟨rfl, rfl, rfl, .inr rfl, .inr rfl⟩
    exact List.ne_nil_of_mem (List.mem_map_of_mem hself)

theorem chooseLevel_levels_lt (minSamples : UInt64) (o : Option Opportunity)
    (read : Option SliceKey → LevelRead) :
    chooseLevel minSamples ((levels o).map read) < (levels o).length := by
  simpa using chooseLevel_lt minSamples (List.map_eq_nil_iff.not.mpr (levels_ne_nil o))

@[simp] theorem blend_key (settings : BlendSettings) (bidder : String) (recent : Recent)
    (lifetime : Lifetime) (key : Option SliceKey) (level : Nat) :
    (blend settings bidder recent lifetime key level).key = key := by
  unfold blend
  split <;> rfl

@[simp] theorem blend_level (settings : BlendSettings) (bidder : String) (recent : Recent)
    (lifetime : Lifetime) (key : Option SliceKey) (level : Nat) :
    (blend settings bidder recent lifetime key level).level = level := by
  unfold blend
  split <;> rfl

-- A snapshot of the level that it names, blended from what each side has come to by itself.
structure FromOwnReads (settings : BlendSettings) (sources : Sources) (o : Option Opportunity)
    (bidder : String) (x : Snapshot) : Prop where
  level : (levels o)[x.level]? = some x.key
  blended : x = blend settings bidder
    ((sources.recent ⟨bidder, x.key⟩).usable settings.fetchTimeoutMs)
    ((sources.lifetime ⟨bidder, x.key⟩).usable settings.fetchTimeoutMs) x.key x.level

theorem gather_settled (settings : BlendSettings) (sources : Sources) (bidder : String)
    (o : Option Opportunity) :
    (gather settings (sources.settled settings.fetchTimeoutMs) bidder o).snapshot =
      (gather settings sources bidder o).snapshot := by
  simp only [gather]
  rw [← ofReads_atOnce, ← ofReads_atOnce _ _ ((levels o).map (readLevel settings sources bidder)),
    List.map_map, List.map_map]
  exact congrArg _ (List.map_congr_left fun key _ => readLevel_settled settings sources bidder key)

theorem gather_congr {sources sources' : Sources} {bidder : String}
    (h : sources.AgreeOn bidder sources') (settings : BlendSettings) (o : Option Opportunity) :
    gather settings sources bidder o = gather settings sources' bidder o := by
  have hreads : (levels o).map (readLevel settings sources bidder) =
      (levels o).map (readLevel settings sources' bidder) :=
    List.map_congr_left fun key _ => readLevel_congr h settings key
  simp only [gather, hreads]

theorem gatherAll_congr {sources sources' : Sources} {bidders : List String}
    (h : ∀ bidder ∈ bidders, sources.AgreeOn bidder sources') (settings : BlendSettings)
    (o : Option Opportunity) (cancel : Option Nat) :
    gatherAll settings sources bidders o cancel = gatherAll settings sources' bidders o cancel := by
  have harrivals : arrivals settings (fun _ => sources) bidders o =
      arrivals settings (fun _ => sources') bidders o := by
    apply List.ext_getElem (by simp [arrivals])
    intro place hplace _
    simp only [arrivals, List.length_mapIdx] at hplace
    simp only [arrivals, List.getElem_mapIdx, gather_congr (h _ (List.getElem_mem hplace))]
  rw [gatherAll, gatherAll, gatherEach, gatherEach, harrivals]

theorem gather_fromOwnReads (settings : BlendSettings) (sources : Sources) (bidder : String)
    (o : Option Opportunity) :
    FromOwnReads settings sources o bidder (gather settings sources bidder o).snapshot := by
  have hchosen :=
    chooseLevel_levels_lt settings.minSamples o (readLevel settings sources bidder)
  generalize hlevel : chooseLevel settings.minSamples
    ((levels o).map (readLevel settings sources bidder)) = level at hchosen
  have hkey : (levels o)[level]? = some (levels o)[level] := List.getElem?_eq_getElem hchosen
  have hblend : (gather settings sources bidder o).snapshot =
      blend settings bidder
        ((sources.recent ⟨bidder, (levels o)[level]⟩).usable settings.fetchTimeoutMs)
        ((sources.lifetime ⟨bidder, (levels o)[level]⟩).usable settings.fetchTimeoutMs)
        (levels o)[level] level := by
    simp only [gather, ofReads, hlevel, List.getElem?_map, hkey, Option.map_some, readLevel_recent,
      readLevel_lifetime]
    rfl
  constructor
  case level => rw [hblend, blend_key, blend_level, hkey]
  case blended => rw [hblend, blend_key, blend_level]

-- What losses do to the snapshots of all bidders.
structure Degrades (settings : BlendSettings) (sources : Sources) (bidders : List String)
    (o : Option Opportunity) : Prop where
  -- Lost reads are the same as no data.
  settled : gatherAll settings sources bidders o none =
    gatherAll settings (sources.settled settings.fetchTimeoutMs) bidders o none
  -- The reads of a bidder concern no other bidder.
  confined : ∀ (bidder : String) (sources' : Sources),
    (∀ other, other ≠ bidder → sources.AgreeOn other sources') →
      ∀ (i : Nat) (other : String), bidders[i]? = some other → other ≠ bidder →
        (gatherAll settings sources bidders o none)[i]? =
          (gatherAll settings sources' bidders o none)[i]?
  -- The reads of a side do not concern what comes from the other side.
  sides : List.Forall₂ (FromOwnReads settings sources o) bidders
    (gatherAll settings sources bidders o none)

theorem gatherAll_degrades (settings : BlendSettings) (sources : Sources) (bidders : List String)
    (o : Option Opportunity) : Degrades settings sources bidders o := by
  constructor
  case settled =>
    rw [gatherAll_none, gatherAll_none]
    exact List.map_congr_left fun bidder _ => (gather_settled settings sources bidder o).symm
  case confined =>
    intro bidder sources' hagree i other hi hother
    rw [gatherAll_none, gatherAll_none, List.getElem?_map, List.getElem?_map, hi, Option.map_some,
      Option.map_some, gather_congr (hagree other hother)]
  case sides =>
    rw [gatherAll_none, List.forall₂_map_right_iff, List.forall₂_same]
    exact fun bidder _ => gather_fromOwnReads settings sources bidder o

end Snapshot
end DemandRouting
