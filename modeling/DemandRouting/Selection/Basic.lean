import DemandRouting.Json.Value

namespace DemandRouting

inductive InvitationReason where
  -- invited whatever the score
  | anchor
  | highScore
  -- a high scorer of low confidence that had luck
  | exploration
  -- the best bidder of a category that was missing
  | diversity
  -- drawn into a slot that is kept for exploration
  | explorationSlot
  -- invited because nobody is left out
  | bypass
deriving DecidableEq, Repr

def InvitationReason.name : InvitationReason → String
  | .anchor => "ANCHOR"
  | .highScore => "HIGH_SCORE"
  | .exploration => "EXPLORATION"
  | .diversity => "DIVERSITY"
  | .explorationSlot => "EXPLORATION_SLOT"
  | .bypass => "BYPASS"

structure Invitation where
  bidder : String
  score : Float
  confidence : Float
  reason : InvitationReason
  category : Option String
deriving DecidableEq

-- How a selection was made.
inductive SelectionMode where
  | normal
  | bypass
  -- nobody is left out, but these would have been
  | shadow (wouldExclude : List String)
deriving DecidableEq

structure Selection where
  invited : List Invitation
  -- in the order of the candidates
  excluded : List String
  candidates : Nat
  mode : SelectionMode
deriving DecidableEq

namespace Selection

def bidders (s : Selection) : List String := s.invited.map (·.bidder)

def isInvited (s : Selection) (bidder : String) : Bool := s.bidders.contains bidder

def reasonOf? (s : Selection) (bidder : String) : Option InvitationReason :=
  (s.invited.find? (·.bidder == bidder)).map (·.reason)

end Selection

def Invitation.toJson (i : Invitation) : Json := .object [
  ("bidder_code", .text i.bidder),
  ("score", .ofFloat i.score),
  ("confidence", .ofFloat i.confidence),
  ("reason", .text i.reason.name),
  ("category", .optional .text i.category)]

def SelectionMode.wouldExclude : SelectionMode → List String
  | .shadow codes => codes
  | _ => []

def SelectionMode.isShadow : SelectionMode → Bool
  | .shadow _ => true
  | _ => false

def Selection.toJson (s : Selection) : Json := .object [
  ("selected", .list (s.invited.map Invitation.toJson)),
  ("excluded", .ofTexts s.excluded),
  ("total_candidates", .ofNat s.candidates),
  ("bypass_mode", .bool (s.mode = .bypass)),
  ("shadow_mode", .bool s.mode.isShadow),
  ("shadow_would_exclude", .ofTexts s.mode.wouldExclude)]

end DemandRouting
