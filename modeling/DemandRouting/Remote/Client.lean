import DemandRouting.Json.Printer
import DemandRouting.Json.Reader
import DemandRouting.Performance.Outcome
import DemandRouting.Remote.Status
import DemandRouting.Sources.Reading
import DemandRouting.Url.Parse

namespace DemandRouting

structure ClientSettings where
  baseUrl : String := "http://localhost:8090/"
  -- for a whole exchange
  timeoutMs : UInt64 := 20
  apiKey : Option String := none
deriving DecidableEq

def ClientSettings.toJson (s : ClientSettings) : Json := .object [
  ("base_url", .text s.baseUrl),
  ("timeout_ms", .ofNat s.timeoutMs.toNat),
  ("api_key", .optional .text s.apiKey)]

structure Client where
  base : Url
  timeoutMs : UInt64
  apiKey : Option String
deriving DecidableEq

namespace Client

open Remote

-- The path of the base always ends in a slash.
def make (s : ClientSettings) : Except SourceError Client :=
  match Url.parse s.baseUrl with
  | .error e => .error (.request e.message)
  | .ok url => .ok ⟨url.withFinalSlash, s.timeoutMs, s.apiKey⟩

inductive Call where
  | recent (slice : SliceId)
  | lifetime (slice : SliceId)
  | recordRequest (outcome : RequestOutcome)
  | recordWin (outcome : WinOutcome)
  | topBidders (publisher : String) (limit : UInt64)

namespace Call

def segments : Call → List String
  | recent s => ["v1", "realtime", s.bidder]
  | lifetime s => ["v1", "historical", s.bidder]
  | recordRequest _ => ["v1", "outcomes", "requests"]
  | recordWin _ => ["v1", "outcomes", "wins"]
  | topBidders publisher _ => ["v1", "publishers", publisher, "top-bidders"]

-- A slice without a key asks for the bidder as a whole.
def pair? : Call → Option (String × String)
  | recent s | lifetime s => s.key.map fun k => ("key", k.display)
  | topBidders _ limit => some ("limit", toString limit.toNat)
  | _ => none

-- Outcomes are posted, everything else is only asked for.
def body? : Call → Option Json
  | recordRequest o => some (RequestOutcome.shape.write o)
  | recordWin o => some (WinOutcome.shape.write o)
  | _ => none

end Call

def urlOf (c : Client) (call : Call) : Except SourceError Url :=
  match c.base.extend? call.segments with
  | none => .error (.request ("base url cannot be a base: " ++ c.base.toText))
  | some url =>
    .ok (match call.pair? with
      | some (name, value) => url.addPair name value
      | none => url)

inductive Method where
  | get
  | post
deriving DecidableEq

def Method.name : Method → String
  | .get => "GET"
  | .post => "POST"

structure Outgoing where
  method : Method
  url : Url
  apiKey : Option String
  body : Option Json

-- Control characters cannot stand in a header; a tab can.
def isHeaderChar (c : Char) : Bool := c == '\t' || (0x20 ≤ c.toNat && c.toNat != 0x7f)

-- Quotes, backquotes and braces cannot stand in the host of a message.
def isHostChar (c : Char) : Bool := !"\"\x60\x7b\x7d".toList.contains c

def maxUrlLength : Nat := 65534

-- Whether a URL can be asked.
def isReachable (u : Url) : Bool :=
  (u.scheme == "http".toList || u.scheme == "https".toList) &&
    (u.host.getD []).all isHostChar && u.toChars.length ≤ maxUrlLength

-- Credentials go into a header of the request, and out of its URL, if they spell a text; a password
-- that spells none is left out where there is a name.
def withoutCredentials (u : Url) : Url :=
  let named := !u.credentials.username.isEmpty
  let keyed := !u.credentials.password.isEmpty && (Url.decode u.credentials.password).isSome
  if (Url.decode u.credentials.username).isSome && (named || keyed) then { u with credentials := {} }
  else u

-- Messages about the way of a request show the URL that it was sent to.
def forUrl (u : Url) : String := " for url (" ++ (withoutCredentials u).toText ++ ")"

def prepare (c : Client) (call : Call) : Except SourceError Outgoing := do
  let url ← c.urlOf call
  if !c.apiKey.all (·.toList.all isHeaderChar) then throw (.request "builder error")
  if !isReachable url then throw (.request ("builder error" ++ forUrl url))
  return ⟨if call.body?.isSome then .post else .get, url, c.apiKey, call.body?⟩

-- What became of a request on its way.
inductive Exchange where
  | answered (status : Nat) (body : String)
  -- nobody took the request
  | refused
  -- the connection ended without an answer
  | closed
  -- no answer came in time
  | silent

-- The status and body of an answer.
def answer (c : Client) (url : Url) : Exchange → Except SourceError (Nat × String)
  | .answered status body => .ok (status, body)
  | .refused => .error (.unavailable ("error sending request" ++ forUrl url))
  | .closed => .error (.request ("error sending request" ++ forUrl url))
  | .silent => .error (.timeout c.timeoutMs)

def unsuccessful (url : Url) (status : Nat) : SourceError :=
  .request (url.toText ++ " returned " ++ Status.toText status)

-- What was asked for.
def received {α : Type} (c : Client) (url : Url) (codec : Codec α) (e : Exchange) :
    Except SourceError α := do
  let (status, body) ← c.answer url e
  if status = Status.notFound then throw (.notFound url.toText)
  if !Status.isSuccess status then throw (unsuccessful url status)
  match (Json.read body).bind codec.read with
  | some a => return a
  | none => throw (.decode "error decoding response body")

-- Whether an outcome was taken.
def accepted (c : Client) (url : Url) (e : Exchange) : Except SourceError Unit := do
  let (status, _) ← c.answer url e
  if !Status.isSuccess status then throw (unsuccessful url status)

-- The answer to a question for anchors.
def bidders : Shape (List String) where
  blank := []
  fields := [.needed "bidders" (.list .text) id fun v _ => v]

inductive Received where
  | recent (r : Recent)
  | lifetime (l : Lifetime)
  | recorded
  | bidders (codes : List String)

def read (c : Client) (call : Call) (url : Url) (e : Exchange) : Except SourceError Received :=
  match call with
  | .recent _ => (c.received url Recent.shape.codec e).map .recent
  | .lifetime _ => (c.received url Lifetime.shape.codec e).map .lifetime
  | .recordRequest _ | .recordWin _ => (c.accepted url e).map fun _ => .recorded
  | .topBidders _ limit =>
    (c.received url bidders.codec e).map fun codes => .bidders (codes.take limit.toNat)

end Client
end DemandRouting
