import DemandRouting.Url.Label
import DemandRouting.Url.Percent

namespace DemandRouting.Url

open Text

def splitOn (p : Char → Bool) : List Char → List (List Char)
  | [] => [[]]
  | c :: rest =>
    if p c then [] :: splitOn p rest
    else match splitOn p rest with
      | [] => [[c]]
      | part :: parts => (c :: part) :: parts

-- The ASCII form of a name, which may have empty labels.
def asciiDomain? (name : List Char) : Option (List Char) := do
  let folded := canonical (← foldChars? name)
  if folded.any isForbidden then none
  let labels ← (splitOn (· == '.') folded).mapM Label.ofChars?
  let directed := labels.any (·.text.any isRightward)
  if directed && !labels.all (isDirected ·.text) then none
  some (['.'].intercalate (labels.map (·.ascii)))

end DemandRouting.Url
