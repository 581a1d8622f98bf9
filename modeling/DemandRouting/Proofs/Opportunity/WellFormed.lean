import DemandRouting.OpenRtb.Codec
import DemandRouting.Opportunity.Classify
import DemandRouting.Proofs.Text.Blank

namespace DemandRouting

open OpenRtb Text

theorem FreshTag.char_not_blank (d : Fin 36) : isBlank (FreshTag.char d) = false := by
  decide +revert

theorem FreshTag.trimmed (t : FreshTag) : Trimmed (String.ofList t.toChars) := by
  have hlength : t.toChars.length = 12 := by rw [FreshTag.toChars, List.length_map, t.length_toList]
  have hblank : ∀ c ∈ t.toChars, isBlank c = false := by
    intro c hc
    obtain ⟨d, -, rfl⟩ := List.mem_map.mp hc
    exact char_not_blank d
  have hne : t.toChars ≠ [] := List.ne_nil_of_length_eq_add_one hlength
  constructor
  · rw [String.toList_ofList]
    exact ⟨_, List.head?_eq_some_head hne, hblank _ (List.head_mem hne)⟩
  · rw [String.toList_ofList]
    exact ⟨_, List.getLast?_eq_some_getLast hne, hblank _ (List.getLast_mem hne)⟩

-- An id to track by, made up exactly where nothing but blanks was given.
structure Tracked (given : Option String) (id : String) (generated : Bool) : Prop where
  not_blank : isBlankText id = false
  trimmed : Trimmed id
  generated_iff : generated = true ↔ ∀ s, given = some s → isBlankText s = true

theorem TrackingId.orFresh_tracked (given : Option String) {lead : String} (hlead : Trimmed lead)
    (fresh : FreshTag) :
    Tracked given (orFresh given lead fresh).id (orFresh given lead fresh).generated := by
  have hfresh := hlead.append fresh.trimmed
  cases given with
  | none => exact ⟨hfresh.not_blank, hfresh, iff_of_true rfl nofun⟩
  | some s =>
    rw [orFresh, Option.bind_some, nonBlank?]
    by_cases hblank : isBlankText s = true
    · rw [if_pos hblank]
      refine ⟨hfresh.not_blank, hfresh, iff_of_true rfl ?_⟩
      rintro _ ⟨⟩
      exact hblank
    · rw [if_neg hblank]
      have htrimmed := trimmed_trim (Bool.eq_false_iff.mpr hblank)
      refine ⟨htrimmed.not_blank, htrimmed, iff_of_false nofun fun hall => ?_⟩
      exact hblank (hall s rfl)

theorem Uuid.v4_not_blank (bits : BitVec 128) : isBlankText (v4 bits) = false := by
  rw [isBlankText_eq_false_iff, v4, String.toList_ofList]
  exact ⟨'-', by simp, by decide⟩

namespace Money

theorem negative_of_make? {units : Int} (h : 0 ≤ units) {scale : Nat} {a : Money}
    (ha : make? units scale = some a) : a.negative = false := by
  unfold make? at ha
  split at ha
  · cases ha
    exact decide_eq_false (Int.not_lt.mpr h)
  · cases ha

theorem dropPlaces_nonneg {n : Int} (h : 0 ≤ n) (places : Nat) : 0 ≤ dropPlaces n places := by
  simp only [dropPlaces, if_neg (Int.not_lt.mpr h)]
  exact Int.natCast_nonneg _

theorem negative_roundTo {a : Money} (h : a.negative = false) (places : Nat) :
    (a.roundTo places).negative = false := by
  have hunits : 0 ≤ a.units := by
    rw [units, h]
    exact Int.natCast_nonneg _
  unfold roundTo
  split
  · exact h
  · cases hmake : make? (dropPlaces a.units (a.scale - places)) places with
    | none => exact h
    | some b => exact negative_of_make? (dropPlaces_nonneg hunits _) hmake

theorem negative_of_ofPositiveFloat? {x : Float} {a : Money}
    (h : ofPositiveFloat? x = some a) : a.negative = false := by
  simp only [ofPositiveFloat?, Option.bind_eq_bind] at h
  split at h
  all_goals
    simp only [Option.bind_eq_some_iff] at h
    obtain ⟨_, -, _, -, hmake⟩ := h
    exact negative_of_make? (Int.natCast_nonneg _) hmake

end Money

namespace Opportunity

-- What is kept of a list: everything but the empty text, where it stands first.
structure FirstOccurrences (source kept : List String) : Prop where
  mem_iff : ∀ c, c ∈ kept ↔ c ∈ source ∧ c ≠ ""
  ordered : kept.Pairwise fun a b => source.idxOf a < source.idxOf b

theorem FirstOccurrences.nodup {source kept : List String} (h : FirstOccurrences source kept) :
    kept.Nodup :=
  h.ordered.imp fun {a b} hlt heq => by
    subst heq
    exact Nat.lt_irrefl _ hlt

theorem firstOccurrences_addCategory {source kept : List String} (h : FirstOccurrences source kept)
    (category : String) : FirstOccurrences (source ++ [category]) (addCategory kept category) := by
  have hsource : ∀ c ∈ kept, c ∈ source := fun c hc => ((h.mem_iff c).mp hc).1
  -- what is kept already keeps its place
  have hordered : kept.Pairwise fun a b =>
      (source ++ [category]).idxOf a < (source ++ [category]).idxOf b := by
    apply h.ordered.imp_of_mem
    intro a b ha hb hlt
    rwa [List.idxOf_append_of_mem (hsource a ha), List.idxOf_append_of_mem (hsource b hb)]
  unfold addCategory
  by_cases hskip : category = "" ∨ category ∈ kept
  · rw [if_pos (by simpa using hskip)]
    refine ⟨fun c => ?_, hordered⟩
    rw [h.mem_iff, List.mem_append, List.mem_singleton]
    refine ⟨fun hc => ⟨.inl hc.1, hc.2⟩, fun hc => ⟨?_, hc.2⟩⟩
    rcases hc.1 with hc' | rfl
    · exact hc'
    · exact hsource _ (hskip.resolve_left hc.2)
  · rw [if_neg (by simpa using hskip)]
    obtain ⟨hne, hnew⟩ := not_or.mp hskip
    have hfirst : category ∉ source := fun hmem => hnew ((h.mem_iff category).mpr ⟨hmem, hne⟩)
    refine ⟨fun c => ?_, List.pairwise_append.mpr ⟨hordered, List.pairwise_singleton _ _, ?_⟩⟩
    · rw [List.mem_append, List.mem_append, List.mem_singleton, h.mem_iff, or_and_right]
      exact or_congr_right (iff_self_and.mpr fun hc => hc ▸ hne)
    · intro a ha b hb
      rw [List.mem_singleton.mp hb, List.idxOf_append_of_mem (hsource a ha),
        List.idxOf_append_of_notMem hfirst]
      exact Nat.lt_add_right _ (List.idxOf_lt_length_of_mem (hsource a ha))

theorem firstOccurrences_foldl (source : List String) :
    FirstOccurrences source (source.foldl addCategory []) := by
  induction source using List.reverseRecOn with
  | nil => exact ⟨by simp, .nil⟩
  | append_singleton source category ih =>
    rw [List.foldl_append]
    exact firstOccurrences_addCategory ih category

example : ["IAB1", "", "IAB2", "IAB1"].foldl addCategory [] = ["IAB1", "IAB2"] := by decide

theorem positive?_pos {w h : UInt32} {size : AdSize} (hsize : AdSize.positive? w h = some size) :
    0 < size.width ∧ 0 < size.height := by
  unfold AdSize.positive? at hsize
  split at hsize
  · rename_i hpos
    cases hsize
    exact hpos
  · cases hsize

theorem givenSize?_pos {w h : Option UInt32} {size : AdSize} (hsize : givenSize? w h = some size) :
    0 < size.width ∧ 0 < size.height := by
  unfold givenSize? at hsize
  split at hsize
  · exact positive?_pos hsize
  · cases hsize

theorem bannerSizes_pos {banner : Banner} {size : AdSize} (h : size ∈ bannerSizes banner) :
    0 < size.width ∧ 0 < size.height := by
  simp only [bannerSizes] at h
  split at h
  · exact givenSize?_pos (Option.mem_toList.mp h)
  · obtain ⟨format, -, hformat⟩ := List.mem_filterMap.mp h
    exact positive?_pos hformat

theorem sizesOf_pos {imp : Imp} {size : AdSize} (h : size ∈ sizesOf imp) :
    0 < size.width ∧ 0 < size.height := by
  simp only [sizesOf] at h
  split at h
  · obtain ⟨video, -, hvideo⟩ := Option.bind_eq_some_iff.mp (Option.mem_toList.mp h)
    exact givenSize?_pos hvideo
  · cases hbanner : imp.banner with
    | none => simp [hbanner] at h
    | some banner =>
      rw [hbanner, Option.map_some, Option.getD_some] at h
      exact bannerSizes_pos h

theorem currencyOf_ne (imp : Imp) : currencyOf imp ≠ "" := by
  unfold currencyOf
  split
  · split
    · decide
    · rename_i hne
      simpa using hne
  · decide

theorem negative_floorOf {imp : Imp} {a : Money} (h : floorOf imp = some a) :
    a.negative = false := by
  obtain ⟨x, -, hx⟩ := Option.bind_eq_some_iff.mp h
  obtain ⟨b, hb, rfl⟩ := Option.map_eq_some_iff.mp hx
  exact Money.negative_roundTo (Money.negative_of_ofPositiveFloat? hb) 6

def NoneEmpty (ids : Table String) : Prop := ∀ e ∈ ids.entries, e.2 ≠ ""

section Ids

variable {ids : Table String} (hids : NoneEmpty ids)

include hids

theorem noneEmpty_insertNew (type : String) {id : String} (hid : id ≠ "") :
    NoneEmpty (ids.insertNew type id) := by
  unfold Table.insertNew
  split
  · exact hids
  · intro e he
    rcases Table.mem_place he with rfl | he
    · exact hid
    · exact hids e he

theorem noneEmpty_addEid (eid : Eid) : NoneEmpty (Identity.addEid ids eid) := by
  unfold Identity.addEid
  split
  · rename_i husable
    obtain ⟨uid, huid, rfl⟩ := Option.map_eq_some_iff.mp husable
    exact noneEmpty_insertNew hids _ (by simpa using List.find?_some huid)
  · exact hids

theorem noneEmpty_addRaw (type : String) (id : Option String) :
    NoneEmpty (Identity.addRaw ids type id) := by
  unfold Identity.addRaw
  split
  · split
    · exact hids
    · rename_i hne
      exact noneEmpty_insertNew hids type (by simpa using hne)
  · exact hids

end Ids

theorem noneEmpty_empty : NoneEmpty .empty := fun _ he => absurd he List.not_mem_nil

theorem noneEmpty_extract (user : Option User) : NoneEmpty (Identity.extract user) := by
  cases user with
  | none => exact noneEmpty_empty
  | some user =>
    have hextended : NoneEmpty ((Identity.eidsOf user).foldl Identity.addEid .empty) :=
      List.foldlRecOn _ _ noneEmpty_empty fun _ hids eid _ => noneEmpty_addEid hids eid
    exact noneEmpty_addRaw (noneEmpty_addRaw hextended _ _) _ _

-- No field of the offer holds a value that stands for none.
structure SoundOffer (o : Opportunity) : Prop where
  requestId : isBlankText o.requestId = false
  sizes : ∀ size ∈ o.sizes, 0 < size.width ∧ 0 < size.height
  floorPrice : ∀ a, o.floorPrice = some a → a.negative = false
  floorCurrency : o.floorCurrency ≠ ""
  country : isBlankText o.country = false

theorem SoundOffer.atTime (now : Timestamp) {id : String} (h : isBlankText id = false) :
    SoundOffer { Opportunity.atTime now with requestId := id } where
  requestId := h
  sizes _ hsize := absurd hsize List.not_mem_nil
  floorPrice _ ha := nomatch ha
  floorCurrency := (by decide : "USD" ≠ "")
  country := (by decide : isBlankText unknownCountry = false)

section SoundOffer

variable {o : Opportunity} (h : SoundOffer o)

include h

theorem SoundOffer.withInventory (imp : Imp) : SoundOffer (o.withInventory imp) where
  requestId := h.requestId
  sizes _ hsize := sizesOf_pos hsize
  floorPrice _ ha := negative_floorOf ha
  floorCurrency := currencyOf_ne imp
  country := h.country

theorem SoundOffer.offered (imp : Option Imp) : SoundOffer ((imp.map o.withInventory).getD o) := by
  cases imp with
  | none => exact h
  | some imp => exact h.withInventory imp

theorem SoundOffer.withDevice (device : Option OpenRtb.Device) : SoundOffer (o.withDevice device) :=
  ⟨h.requestId, h.sizes, h.floorPrice, h.floorCurrency, h.country⟩

theorem SoundOffer.withPlace (geo : Option Geo) : SoundOffer (o.withPlace geo) := by
  cases geo with
  | none => exact h
  | some geo =>
    refine ⟨h.requestId, h.sizes, h.floorPrice, h.floorCurrency, ?_⟩
    have hunknown : isBlankText unknownCountry = false := by decide
    change isBlankText ((geo.country.bind nonBlank?).getD unknownCountry) = false
    cases geo.country with
    | none => exact hunknown
    | some country => exact not_blank_getD hunknown

end SoundOffer

-- What holds of the opportunity that a request offers with one of its impressions, or with none.
structure WellFormed (r : BidRequest) (imp : Option Imp) (o : Opportunity) : Prop
    extends SoundOffer o where
  publisher : Tracked
    (match r.site.bind (·.publisher) with
      | some publisher => publisher.id
      | none => (r.app.bind (·.publisher)).bind (·.id))
    o.publisherId o.generated.publisher
  site : Tracked
    (match r.site.bind (·.id) with
      | some id => some id
      | none => r.app.bind (·.id))
    o.siteId o.generated.site
  adUnit : Tracked
    (imp.map fun i =>
      match i.tagid with
      | some tag => if isBlankText tag then i.id else tag
      | none => i.id)
    o.adUnitId o.generated.adUnit
  categories : FirstOccurrences
    (match r.site, r.app with
      | some site, _ => site.cat ++ site.pagecat ++ (site.content.map (·.cat)).getD []
      | none, some app => app.cat ++ (app.content.map (·.cat)).getD []
      | none, none => [])
    o.pageCategories
  nodup : o.pageCategories.Nodup
  userIds : ∀ e ∈ o.userIds.entries, e.2 ≠ ""
  app : o.isApp = true → o.pageUrl = "" ∧ o.pageType = none

theorem publisherIdOf_eq (r : BidRequest) :
    publisherIdOf r =
      match r.site.bind (·.publisher) with
      | some publisher => publisher.id
      | none => (r.app.bind (·.publisher)).bind (·.id) := by
  unfold publisherIdOf
  cases r.site.bind (·.publisher) <;> rfl

theorem siteIdOf_eq (r : BidRequest) :
    siteIdOf r =
      match r.site.bind (·.id) with
      | some id => some id
      | none => r.app.bind (·.id) := by
  unfold siteIdOf
  cases r.site.bind (·.id) <;> rfl

theorem adUnitIdOf_eq (imp : Option Imp) :
    adUnitIdOf imp = imp.map fun i =>
      match i.tagid with
      | some tag => if isBlankText tag then i.id else tag
      | none => i.id := by
  apply congrArg (imp.map ·)
  funext i
  cases i.tagid with
  | none => rfl
  | some tag =>
    by_cases hblank : isBlankText tag = true
    · simp [nonBlank?, hblank]
    · simp [nonBlank?, hblank]

theorem trimmed_publisherLead : Trimmed publisherLead :=
  ⟨⟨'p', by decide, by decide⟩, ⟨'_', by decide, by decide⟩⟩

theorem trimmed_siteLead : Trimmed siteLead :=
  ⟨⟨'s', by decide, by decide⟩, ⟨'_', by decide, by decide⟩⟩

theorem trimmed_adUnitLead : Trimmed adUnitLead :=
  ⟨⟨'u', by decide, by decide⟩, ⟨'_', by decide, by decide⟩⟩

theorem SoundOffer.wellFormed {o : Opportunity} (h : SoundOffer o) (r : BidRequest)
    (imp : Option Imp) (fresh : FreshIds) :
    WellFormed r imp { o.withPublisher r imp fresh with
      userIds := Identity.extract r.user
      consent := .ofSignals (.ofRequest r) } where
  requestId := h.requestId
  sizes := h.sizes
  floorPrice := h.floorPrice
  floorCurrency := h.floorCurrency
  country := h.country
  publisher := by
    rw [← publisherIdOf_eq]
    exact TrackingId.orFresh_tracked (publisherIdOf r) trimmed_publisherLead fresh.publisher
  site := by
    rw [← siteIdOf_eq]
    exact TrackingId.orFresh_tracked (siteIdOf r) trimmed_siteLead fresh.site
  adUnit := by
    rw [← adUnitIdOf_eq]
    exact TrackingId.orFresh_tracked (adUnitIdOf imp) trimmed_adUnitLead fresh.adUnit
  categories := firstOccurrences_foldl (categorySources r)
  nodup := (firstOccurrences_foldl (categorySources r)).nodup
  userIds := noneEmpty_extract r.user
  app := by
    intro happ
    have hsite : r.site = none := Option.isNone_iff_eq_none.mp (Bool.and_eq_true_iff.mp happ).1
    refine ⟨?_, ?_⟩
    · change (r.site.bind (·.page)).getD "" = ""
      rw [hsite]
      rfl
    · change r.site.bind PageType.ofSite? = none
      rw [hsite]
      rfl

theorem classifyImpression_wellFormed (now : Timestamp) (fresh : FreshIds) (r : BidRequest)
    (imp : Option Imp) : WellFormed r imp (classifyImpression now fresh r imp) := by
  have hid : isBlankText ((nonBlank? r.id).getD (Uuid.v4 fresh.request)) = false :=
    not_blank_getD (Uuid.v4_not_blank fresh.request)
  have hstart := SoundOffer.atTime now hid
  exact (((hstart.offered imp).withDevice r.device).withPlace (geoOf r)).wellFormed r imp fresh

theorem length_classifyAll (now : Timestamp) (fresh : Nat → FreshIds) (r : BidRequest) :
    (classifyAll now fresh r).length = max 1 r.imp.length := by
  unfold classifyAll
  cases r.imp with
  | nil => rfl
  | cons first rest =>
    rw [List.length_mapIdx, List.length_cons]
    omega

theorem eq_of_getElem?_classifyAll {now : Timestamp} {fresh : Nat → FreshIds} {r : BidRequest}
    {i : Nat} {o : Opportunity} (h : (classifyAll now fresh r)[i]? = some o) :
    o = classifyImpression now (fresh i) r r.imp[i]? := by
  unfold classifyAll at h
  cases himp : r.imp with
  | nil =>
    rw [himp, List.getElem?_singleton] at h
    split at h
    · rename_i hzero
      subst hzero
      exact (Option.some.inj h).symm
    · cases h
  | cons first rest =>
    rw [himp, List.getElem?_mapIdx] at h
    obtain ⟨imp, hget, rfl⟩ := Option.map_eq_some_iff.mp h
    rw [hget]

-- A text that holds no bid request counts as a request without impressions.
theorem classifyAll_wellFormed (now : Timestamp) (fresh : Nat → FreshIds) (text : String) :
    let r := BidRequest.ofText text
    (classifyAll now fresh r).length = max 1 r.imp.length ∧
      ∀ i : Fin (classifyAll now fresh r).length,
        WellFormed r r.imp[i.val]? (classifyAll now fresh r)[i] := by
  intro r
  refine ⟨length_classifyAll now fresh r, fun i => ?_⟩
  rw [Fin.getElem_fin, eq_of_getElem?_classifyAll (List.getElem?_eq_getElem i.isLt)]
  exact classifyImpression_wellFormed now (fresh i) r _

end Opportunity
end DemandRouting
