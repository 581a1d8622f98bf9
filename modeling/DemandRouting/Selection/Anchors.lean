import DemandRouting.Sources.Reading
import DemandRouting.Table

namespace DemandRouting.Anchors

-- Whom to take where nothing better is known.
def standard : List String := ["rubicon", "appnexus", "pubmatic"]

-- Fixed lists: the one of the publisher, or the common one.
def fixed (byPublisher : Table (List String)) (common : List String) : AnchorSource :=
  fun publisher limit =>
    .immediate (((byPublisher.get? publisher).getD common).take limit)

-- A source that always fails.
def failing (e : SourceError) : AnchorSource := fun _ _ => ⟨.error e, 0⟩

-- What a source names, the standard anchors if it names nobody.
def ofReading (r : Reading (List String)) : List String :=
  match r.result with
  | .ok (a :: as) => a :: as
  | _ => standard

end DemandRouting.Anchors
