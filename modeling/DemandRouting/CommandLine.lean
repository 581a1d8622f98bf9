import DemandRouting.Json.Printer
import DemandRouting.OpenRtb.Codec
import DemandRouting.Routing.Router
import DemandRouting.Sources.Recorded

namespace DemandRouting.CommandLine

inductive Invocation where
  | help
  -- a request and at least one bidder are needed
  | tooFew
  -- the option for settings came last
  | missingPath
  | dryRun (settings : Option String) (request : String) (bidders : List String)
deriving DecidableEq

namespace Invocation

def ofPositional (settings : Option String) : List String → Invocation
  | request :: bidder :: bidders => dryRun settings request (bidder :: bidders)
  | _ => tooFew

-- Whatever is no option is positional. The last settings count, and whoever asks for help gets it.
def scan (settings : Option String) (positional : List String) : List String → Invocation
  | [] => ofPositional settings positional
  | arg :: rest =>
    if arg == "--help" || arg == "-h" then help
    else if arg == "--config" || arg == "-c" then
      match rest with
      | [] => missingPath
      | path :: rest => scan (some path) positional rest
    else scan settings (positional ++ [arg]) rest

def ofArgs (args : List String) : Invocation := scan none [] args

-- The files that are read.
def files : Invocation → List String
  | dryRun settings request _ => settings.toList ++ [request]
  | _ => []

end Invocation

def usage : String := String.intercalate "\n" [
  "Bidroute - partner selection dry run",
  "",
  "USAGE:",
  "    bidroute [OPTIONS] <REQUEST_JSON> <BIDDER>...",
  "",
  "OPTIONS:",
  "    --config <PATH>     Load router configuration from JSON file",
  "    --help              Print this help message",
  "",
  "EXAMPLES:",
  "    bidroute request.json rubicon appnexus pubmatic openx",
  "    bidroute --config router.json request.json rubicon sovrn",
  ""]

inductive Failure where
  | loading (path : String) (cause : SettingsFault)
  | reading (path : String) (cause : String)
  | settings (fault : SettingsFault)
deriving DecidableEq

def Failure.message : Failure → String
  | loading path cause => "loading " ++ path ++ "\n\nCaused by:\n    " ++ cause.message
  | reading path cause => "reading " ++ path ++ "\n\nCaused by:\n    " ++ cause
  | settings fault => fault.message

-- What a run finds where it is started.
structure Surroundings where
  now : Timestamp
  fresh : FreshIds
  entropy : UInt64
  -- the text of a file, or why it cannot be read
  file : String → Except String String

-- What a run leaves.
structure Outcome where
  exitCode : UInt32
  output : String
  errors : String

-- Seconds that the short window reaches back.
def window : Int := 900

-- A dry run against a ledger in which nothing is recorded yet.
def decide (env : Surroundings) (settings : Option String) (request : String)
    (bidders : List String) : Except Failure Decision := do
  let settings ← match settings with
    | some path => (RouterSettings.ofFile (env.file path)).mapError (.loading path)
    | none => .ok {}
  let text ← (env.file request).mapError (.reading request)
  let ledger : Ledger := {}
  let router ← (Router.make settings (ledger.sources env.now window) (some ledger.anchors)).mapError
    .settings
  return (router.route env.now env.fresh env.entropy (.ofText text) bidders none).decision

def run (env : Surroundings) : Invocation → Outcome
  | .help => ⟨0, "", usage ++ "\n"⟩
  | .tooFew => ⟨1, "", usage ++ "\n"⟩
  | .missingPath => ⟨1, "", "Error: --config requires a path argument\n"⟩
  | .dryRun settings request bidders =>
    match decide env settings request bidders with
    | .ok d => ⟨0, Json.pretty d.toJson ++ "\n", ""⟩
    | .error f => ⟨1, "", "Error: " ++ f.message ++ "\n"⟩

end DemandRouting.CommandLine
