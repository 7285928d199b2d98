/-
The program on a command line.

What a run looks at is read beforehand: variables, the files that the words
name, and random bytes. There is no network here, so every server is out of
reach.
-/
import SearchRest.CommandLine.Program

set_option autoImplicit false

namespace SearchRest.CommandLine

/-- Reads what a path leads to. -/
def readEntry (path : String) : IO FileEntry := do
  try
    return .file (← IO.FS.readBinFile path).toList
  catch
    | .noFileOrDirectory .. => return .missing
    | _ => return .directory

/-- Reads what a run with the given words looks at. -/
def readSurroundings (words : List String) : IO Surroundings := do
  let found ← variableNames.mapM fun name => do return (name, ← IO.getEnv name)
  let paths := match Arguments.read words with
    | .ok a => a.paths
    | .error _ => []
  let entries ← paths.mapM fun path => do return (path, ← readEntry path)
  return {
    environment := fun name => (found.lookup name).join
    entry := fun path => (entries.lookup path).getD .missing
    freshId := callName (← IO.getRandomBytes 16).toList }

end SearchRest.CommandLine

open SearchRest CommandLine

/-- Runs the program. -/
def main (words : List String) : IO UInt32 := do
  let outcome ← run (← readSurroundings words) words fun channel request =>
    pure (channel.executeAsync (fun _ => .unreachable) request false).result
  let output ← IO.getStdout
  output.write (ByteArray.mk outcome.output.toArray)
  outcome.messages.forM fun line => IO.eprintln line
  return UInt32.ofNat outcome.exitCode
