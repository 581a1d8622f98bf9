import DemandRouting.Draws.Generator
import DemandRouting.Scoring.Scorer
import DemandRouting.Selection.Anchors
import DemandRouting.Selection.Basic
import DemandRouting.Selection.Settings

namespace DemandRouting

def Invitation.of (settings : SelectionSettings) (reason : InvitationReason) (b : ScoredBidder) :
    Invitation where
  bidder := b.bidder
  score := b.total
  confidence := b.confidence
  reason
  category := settings.categories.ofBidder? b.bidder

namespace Selection

variable {σ : Type}

def hasBidder (invited : List Invitation) (bidder : String) : Bool :=
  invited.any (·.bidder == bidder)

def isFull (settings : SelectionSettings) (invited : List Invitation) : Bool :=
  settings.maxBidders.toNat ≤ invited.length

def addAnchor (settings : SelectionSettings) (ranked : List ScoredBidder)
    (invited : List Invitation) (anchor : String) : List Invitation :=
  if isFull settings invited || hasBidder invited anchor then invited
  else match ranked.find? (·.bidder == anchor) with
    | some b => invited ++ [.of settings .anchor b]
    | none => invited

-- The leading anchors that are candidates.
def withAnchors (settings : SelectionSettings) (ranked : List ScoredBidder)
    (anchors : List String) : List Invitation :=
  (anchors.take settings.anchorCount.toNat).foldl (addAnchor settings ranked) []

-- Invite one after the other, those of low confidence only if they have luck.
def withScorers (g : Generator σ) (settings : SelectionSettings) :
    List ScoredBidder → List Invitation → σ → List Invitation × σ
  | [], invited, s => (invited, s)
  | b :: rest, invited, s =>
    if isFull settings invited then (invited, s)
    else if hasBidder invited b.bidder || b.total < settings.minScore then
      withScorers g settings rest invited s
    else if b.confidence < settings.lowConfidence then
      let (x, s) := g.coin s
      if settings.explorationRate ≤ x then withScorers g settings rest invited s
      else withScorers g settings rest (invited ++ [.of settings .exploration b]) s
    else withScorers g settings rest (invited ++ [.of settings .highScore b]) s

-- The best bidder of the category, unless the category is there already.
def addCategory (settings : SelectionSettings) (ranked : List ScoredBidder)
    (invited : List Invitation) (category : String) : List Invitation :=
  if isFull settings invited || invited.any (·.category == some category) then invited
  else
    let best := ranked.find? fun b =>
      !hasBidder invited b.bidder && settings.categories.ofBidder? b.bidder == some category
    match best with
    | some b => invited ++ [.of settings .diversity b]
    | none => invited

def withCategories (settings : SelectionSettings) (ranked : List ScoredBidder)
    (format : AdFormat) (invited : List Invitation) : List Invitation :=
  if settings.diversity then
    (Categories.required format settings.diversityCategories).foldl (addCategory settings ranked)
      invited
  else invited

-- The bidders that may be drawn.
def pool (settings : SelectionSettings) (ranked : List ScoredBidder) (invited : List Invitation) :
    List ScoredBidder :=
  ranked.filter fun b => !hasBidder invited b.bidder && b.confidence < settings.slotConfidence

-- How many are drawn.
def slots (settings : SelectionSettings) (ranked : List ScoredBidder)
    (invited : List Invitation) : Nat :=
  min (min settings.explorationSlots.toNat (settings.maxBidders.toNat - invited.length))
    (pool settings ranked invited).length

def withSlots (g : Generator σ) (settings : SelectionSettings) (ranked : List ScoredBidder)
    (invited : List Invitation) (s : σ) : List Invitation × σ :=
  let n := slots settings ranked invited
  if n = 0 then (invited, s)
  else
    let candidates := pool settings ranked invited
    let (places, s) := g.sample candidates.length n s
    (invited ++ (places.filterMap (candidates[·]?)).map (.of settings .explorationSlot), s)

-- Best first, the steps one after the other.
def invite (g : Generator σ) (settings : SelectionSettings) (anchors : List String)
    (scores : List ScoredBidder) (format : AdFormat) (s : σ) : List Invitation × σ :=
  let ranked := ScoredBidder.bestFirst scores
  let (invited, s) := withScorers g settings ranked (withAnchors settings ranked anchors) s
  withSlots g settings ranked (withCategories settings ranked format invited) s

def left (scores : List ScoredBidder) (invited : List Invitation) : List ScoredBidder :=
  scores.filter fun b => !hasBidder invited b.bidder

def normal (g : Generator σ) (settings : SelectionSettings) (anchors : List String)
    (scores : List ScoredBidder) (format : AdFormat) (s : σ) : Selection × σ :=
  let (invited, s) := invite g settings anchors scores format s
  (⟨invited, (left scores invited).map (·.bidder), scores.length, .normal⟩, s)

-- Everyone is invited, and nothing is drawn.
def everyone (settings : SelectionSettings) (scores : List ScoredBidder) : Selection :=
  ⟨scores.map (.of settings .bypass), [], scores.length, .bypass⟩

-- Invite the excluded as well, and remember that they were.
def shadowed (settings : SelectionSettings) (scores : List ScoredBidder) (n : Selection) :
    Selection :=
  let passed := n.excluded.filterMap fun code => scores.find? (·.bidder == code)
  ⟨n.invited ++ passed.map (.of settings .bypass), [], scores.length, .shadow n.excluded⟩

-- What the source of anchors is asked, if it is asked at all.
def anchorReading? (settings : SelectionSettings) (source : Option AnchorSource)
    (scores : List ScoredBidder) (o : Opportunity) : Option (Reading (List String)) :=
  if settings.bypass || scores.isEmpty then none
  else source.map fun a => a o.publisherId settings.anchorCount.toNat

def anchorsOf (settings : SelectionSettings) (source : Option AnchorSource)
    (scores : List ScoredBidder) (o : Opportunity) : List String :=
  match anchorReading? settings source scores o with
  | some r => Anchors.ofReading r
  | none => Anchors.standard

def choose (g : Generator σ) (settings : SelectionSettings) (source : Option AnchorSource)
    (scores : List ScoredBidder) (o : Opportunity) (s : σ) : Selection × σ :=
  if settings.bypass then (everyone settings scores, s)
  else
    let (n, s) := normal g settings (anchorsOf settings source scores o) scores o.format s
    (if settings.shadow then shadowed settings scores n else n, s)

end Selection
end DemandRouting
