import DemandRouting.CommandLine
import Std.Time.DateTime.Timestamp

open DemandRouting

-- A number from the front of some bytes, the first byte counting most.
def numberOf (bytes : List UInt8) : Nat := bytes.foldl (fun n b => 256 * n + b.toNat) 0

def tagOf (bytes : List UInt8) : FreshTag :=
  Vector.ofFn fun i => Fin.ofNat 36 (numberOf ((bytes.drop (2 * i.val)).take 2))

-- Ids from 88 random bytes.
def freshOf (bytes : List UInt8) : FreshIds where
  request := .ofNat 128 (numberOf (bytes.take 16))
  publisher := tagOf (bytes.drop 16)
  site := tagOf (bytes.drop 40)
  adUnit := tagOf (bytes.drop 64)

def currentTime : IO Timestamp := do
  let t ← Std.Time.Timestamp.now
  let nanos := t.toNanosecondsSinceUnixEpoch.val
  return ⟨nanos / 1000000000, (nanos % 1000000000).toNat⟩

def readFile (path : String) : IO (String × Except String String) := do
  try
    return (path, .ok (← IO.FS.readFile path))
  catch e =>
    return (path, .error (toString e))

def main (args : List String) : IO UInt32 := do
  let invocation := CommandLine.Invocation.ofArgs args
  let contents ← invocation.files.mapM readFile
  let bytes := (← IO.getRandomBytes 96).toList
  let outcome := CommandLine.run
    { now := ← currentTime
      fresh := freshOf bytes
      entropy := .ofNat (numberOf (bytes.drop 88))
      file := fun path => (contents.lookup path).getD (.error "not read") }
    invocation
  (← IO.getStdout).putStr outcome.output
  (← IO.getStderr).putStr outcome.errors
  return outcome.exitCode
