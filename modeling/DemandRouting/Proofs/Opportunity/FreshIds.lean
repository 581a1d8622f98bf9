import DemandRouting.Opportunity.Classify
import DemandRouting.Proofs.Text.Blank
import DemandRouting.Routing.Router

namespace DemandRouting

open OpenRtb Text

namespace Opportunity

-- A text without the blanks around it, if anything is left.
def stripped? (s : String) : Option String := if trim s = "" then none else some (trim s)

theorem stripped?_ne {s t : String} (h : stripped? s = some t) : t ≠ "" := by
  unfold stripped? at h
  split at h
  · cases h
  · rename_i hne
    obtain rfl := Option.some.inj h
    exact hne

-- An id is made up exactly where none is left of the given one.
theorem orFresh_eq (given : Option String) (lead : String) (fresh : FreshTag) :
    TrackingId.orFresh given lead fresh =
      match given.bind stripped? with
      | some id => ⟨id, false⟩
      | none => ⟨lead ++ String.ofList fresh.toChars, true⟩ := by
  cases given with
  | none => rfl
  | some id =>
    rw [TrackingId.orFresh, Option.bind_some, Option.bind_some, stripped?, ← map_trim_nonBlank?]
    cases nonBlank? id <;> rfl

theorem orFresh_generated (given : Option String) (lead : String) (fresh fresh' : FreshTag) :
    (TrackingId.orFresh given lead fresh).generated =
      (TrackingId.orFresh given lead fresh').generated := by
  rw [orFresh_eq, orFresh_eq]
  cases given.bind stripped? <;> rfl

-- Without the ids that may be made up.
def unnamed (o : Opportunity) : Opportunity :=
  { o with requestId := "", publisherId := "", siteId := "", adUnitId := "" }

-- Nothing else of an opportunity is made up.
theorem unnamed_classifyImpression (now : Timestamp) (fresh fresh' : FreshIds) (r : BidRequest)
    (imp : Option Imp) :
    unnamed (classifyImpression now fresh r imp) =
      unnamed (classifyImpression now fresh' r imp) := by
  have hpublisher :=
    orFresh_generated (publisherIdOf r) publisherLead fresh.publisher fresh'.publisher
  have hsite := orFresh_generated (siteIdOf r) siteLead fresh.site fresh'.site
  have hadUnit := orFresh_generated (adUnitIdOf imp) adUnitLead fresh.adUnit fresh'.adUnit
  simp only [unnamed, classifyImpression, withPublisher, hpublisher, hsite, hadUnit]
  cases imp <;> cases hgeo : geoOf r <;> simp [withPlace, withDevice, withInventory, atTime]

-- The publisher of the site, or of the app where the site has none.
def publisherOf? (r : BidRequest) : Option Publisher :=
  match r.site.bind (·.publisher) with
  | some publisher => some publisher
  | none => r.app.bind (·.publisher)

-- The id that a request gives its publisher, without the blanks around it and if anything is left.
def namedPublisher? (r : BidRequest) : Option String :=
  ((publisherOf? r).bind (·.id)).bind stripped?

def shows (size : AdSize) : Bool := 0 < size.width ∧ 0 < size.height

def sizeOf? (w h : Option UInt32) : Option AdSize := w.bind fun w => h.map fun h => ⟨w, h⟩

-- The first format of the banner that shows something, else the size of the banner itself, else
-- that of the video player.
def leadingSize? (imp : Imp) : Option AdSize :=
  let formats := (imp.banner.map (·.format)).getD []
  let banner := imp.banner.bind fun b => sizeOf? b.w b.h
  let player := imp.video.bind fun v => sizeOf? v.w v.h
  let listed := formats.map fun f => ⟨f.w, f.h⟩
  (listed.find? shows).or ((banner.filter shows).or (player.filter shows))

theorem publisherIdOf_eq_publisherOf? (r : BidRequest) :
    publisherIdOf r = (publisherOf? r).bind (·.id) := by
  unfold publisherIdOf publisherOf?
  cases r.site.bind (·.publisher) <;> rfl

-- An id that was given is found again, and one that was made up is left out.
theorem orFresh_shown (given : Option String) (lead : String) (fresh : FreshTag) :
    (if (TrackingId.orFresh given lead fresh).generated then none
      else some (TrackingId.orFresh given lead fresh).id).filter (!·.isEmpty) =
      given.bind stripped? := by
  rw [orFresh_eq]
  cases hgiven : given.bind stripped? with
  | none => rfl
  | some id =>
    obtain ⟨s, -, hs⟩ := Option.bind_eq_some_iff.mp hgiven
    simp [Option.filter, stripped?_ne hs]

theorem toText_ne (size : AdSize) : size.toText ≠ "" := by
  intro h
  have hlist := congrArg String.toList h
  simp [AdSize.toText] at hlist

theorem positive?_eq (w h : UInt32) : AdSize.positive? w h = (some ⟨w, h⟩).filter shows := by
  unfold AdSize.positive?
  split <;> simp_all [Option.filter, shows]

theorem givenSize?_eq (w h : Option UInt32) : givenSize? w h = (sizeOf? w h).filter shows := by
  cases w with
  | none => rfl
  | some w =>
    cases h with
    | none => rfl
    | some h => exact positive?_eq w h

theorem head?_positive (formats : List Format) :
    (formats.filterMap fun f => AdSize.positive? f.w f.h).head? =
      (formats.map fun f => (⟨f.w, f.h⟩ : AdSize)).find? shows := by
  induction formats with
  | nil => rfl
  | cons f formats ih =>
    rw [List.filterMap_cons, positive?_eq, List.map_cons]
    cases hshows : shows ⟨f.w, f.h⟩ with
    | true => simp [Option.filter, hshows]
    | false => simpa [Option.filter, hshows] using ih

theorem head?_orElse {α : Type} (as : List α) (a : Option α) :
    (if as.isEmpty then a.toList else as).head? = as.head?.or a := by
  cases as with
  | nil => cases a <;> rfl
  | cons first as => rfl

theorem head?_sizesOf (imp : Imp) : (sizesOf imp).head? = leadingSize? imp := by
  have hvideo : (imp.video.bind fun v => givenSize? v.w v.h) =
      (imp.video.bind fun v => sizeOf? v.w v.h).filter shows := by
    cases imp.video with
    | none => rfl
    | some video => exact givenSize?_eq video.w video.h
  rw [sizesOf, head?_orElse, hvideo, leadingSize?]
  cases imp.banner with
  | none => simp
  | some banner =>
    simp only [Option.map_some, Option.getD_some, bannerSizes, head?_orElse, head?_positive,
      givenSize?_eq, Option.bind_some, Option.or_assoc]

-- Routing makes no difference between the two.
structure SeenAlike (o o' : Opportunity) : Prop where
  key : SliceKey.ofOpportunity o = SliceKey.ofOpportunity o'
  floorPrice : o.floorPrice = o'.floorPrice
  userIds : o.userIds = o'.userIds

section SeenAlike

variable {o o' : Opportunity} (h : SeenAlike o o')

include h

theorem SeenAlike.gatherAll (settings : BlendSettings) (sources : Sources) (bidders : List String)
    (cancel : Option Nat) :
    Snapshot.gatherAll settings sources bidders (some o) cancel =
      Snapshot.gatherAll settings sources bidders (some o') cancel := by
  have hlevels : Snapshot.levels (some o) = Snapshot.levels (some o') := by
    rw [Snapshot.levels, Snapshot.levels, h.key]
  simp only [Snapshot.gatherAll, Snapshot.gatherEach, Snapshot.arrivals, Snapshot.collect,
    Snapshot.gather, hlevels, Option.map_some, h.key]

theorem SeenAlike.ofInput (settings : ScoringSettings) (bidder : String) (i : ScoringInput) :
    ScoredBidder.ofInput settings bidder o i = ScoredBidder.ofInput settings bidder o' i := by
  simp only [ScoredBidder.ofInput, ScoredBidder.componentsOf, ScoredBidder.floorOf,
    effectiveFloor?, h.floorPrice, h.userIds]

theorem SeenAlike.ofSnapshots (settings : ScoringSettings) (snapshots : List Snapshot) :
    ScoredBidder.ofSnapshots settings o snapshots =
      ScoredBidder.ofSnapshots settings o' snapshots := by
  simp only [ScoredBidder.ofSnapshots, ScoredBidder.ofSnapshot, h.ofInput]

theorem SeenAlike.fetchAll (settings : ScoringSettings) (sources : Sources) (withRecent : Bool)
    (bidders : List String) :
    ScoredBidder.fetchAll settings sources withRecent bidders o =
      ScoredBidder.fetchAll settings sources withRecent bidders o' := by
  simp only [ScoredBidder.fetchAll, ScoredBidder.fetch, h.key, h.ofInput]

-- Scores come of the same snapshots by the same formulas.
theorem SeenAlike.routeOpportunity (router : Router) (entropy : UInt64) (candidates : List String)
    (cancel : Option Nat) :
    (router.routeOpportunity o entropy candidates cancel).decision.scores =
      (router.routeOpportunity o' entropy candidates cancel).decision.scores := by
  simp only [Router.routeOpportunity, h.gatherAll, h.ofSnapshots]

end SeenAlike

theorem publisher_classifyImpression (now : Timestamp) (fresh : FreshIds) (r : BidRequest)
    (imp : Option Imp) :
    (SliceKey.ofOpportunity (classifyImpression now fresh r imp)).publisher =
      namedPublisher? r := by
  rw [namedPublisher?, ← publisherIdOf_eq_publisherOf?]
  exact orFresh_shown (publisherIdOf r) publisherLead fresh.publisher

theorem size_classifyImpression (now : Timestamp) (fresh : FreshIds) (r : BidRequest)
    (imp : Option Imp) :
    (SliceKey.ofOpportunity (classifyImpression now fresh r imp)).size =
      (imp.bind leadingSize?).map AdSize.toText := by
  have hsizes : (classifyImpression now fresh r imp).sizes = (imp.map sizesOf).getD [] := by
    simp only [classifyImpression]
    cases imp <;> cases geoOf r <;> rfl
  have hprimary : (classifyImpression now fresh r imp).primarySize? = imp.bind leadingSize? := by
    rw [primarySize?, hsizes]
    cases imp with
    | none => rfl
    | some imp => exact head?_sizesOf imp
  simp only [SliceKey.ofOpportunity, SliceKey.make, hprimary]
  cases imp.bind leadingSize? with
  | none => rfl
  | some size => simp [Option.filter, toText_ne]

theorem classifyImpression_seenAlike (now : Timestamp) (fresh fresh' : FreshIds) (r : BidRequest)
    (imp : Option Imp) :
    SeenAlike (classifyImpression now fresh r imp) (classifyImpression now fresh' r imp) := by
  have hsame := unnamed_classifyImpression now fresh fresh' r imp
  have hpublisher := (publisher_classifyImpression now fresh r imp).trans
    (publisher_classifyImpression now fresh' r imp).symm
  have hsize := (size_classifyImpression now fresh r imp).trans
    (size_classifyImpression now fresh' r imp).symm
  refine ⟨?_, congrArg (·.floorPrice) hsame, congrArg (·.userIds) hsame⟩
  have hcountry := congrArg Opportunity.country hsame
  have hdevice := congrArg Opportunity.device hsame
  have hformat := congrArg Opportunity.format hsame
  simp only [unnamed] at hcountry hdevice hformat
  simp only [SliceKey.ofOpportunity, SliceKey.make] at hpublisher hsize ⊢
  rw [hcountry, hdevice, hformat, hsize, hpublisher]

-- For any request, any of its impressions and any two outcomes of making up ids: the slice is the
-- same, and so are its fallbacks, all snapshots and all scores, from snapshots or straight from the
-- sources. The slice says of the request what it says itself.
theorem classifyImpression_freshHidden (now : Timestamp) (fresh fresh' : FreshIds)
    (r : BidRequest) (imp : Option Imp) :
    let o := classifyImpression now fresh r imp
    let o' := classifyImpression now fresh' r imp
    let key := SliceKey.ofOpportunity o
    key = SliceKey.ofOpportunity o' ∧
      key.fallback = (SliceKey.ofOpportunity o').fallback ∧
      (∀ settings sources bidders cancel,
        Snapshot.gatherAll settings sources bidders (some o) cancel =
          Snapshot.gatherAll settings sources bidders (some o') cancel) ∧
      (∀ settings snapshots,
        ScoredBidder.ofSnapshots settings o snapshots =
          ScoredBidder.ofSnapshots settings o' snapshots) ∧
      (∀ settings sources withRecent bidders,
        ScoredBidder.fetchAll settings sources withRecent bidders o =
          ScoredBidder.fetchAll settings sources withRecent bidders o') ∧
      (∀ (router : Router) entropy candidates cancel,
        (router.routeOpportunity o entropy candidates cancel).decision.scores =
          (router.routeOpportunity o' entropy candidates cancel).decision.scores) ∧
      key.publisher = namedPublisher? r ∧
      key.size = (imp.bind leadingSize?).map AdSize.toText := by
  have h := classifyImpression_seenAlike now fresh fresh' r imp
  refine ⟨h.key, congrArg SliceKey.fallback h.key, h.gatherAll, h.ofSnapshots, h.fetchAll,
    h.routeOpportunity, ?_, ?_⟩
  · exact publisher_classifyImpression now fresh r imp
  · exact size_classifyImpression now fresh r imp

end Opportunity
end DemandRouting
