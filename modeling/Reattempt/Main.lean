import Reattempt.CommandLine
import Reattempt.Platform
/-!
# The program

Reads the files that the command line may be about, runs the command, prints its reply and exits
with its code.
-/
set_option autoImplicit false

namespace Reattempt.Main

def readFile (path : String) : IO (Option (Except FileError Value)) := do
  try
    let bytes ← IO.FS.readBinFile path
    return some (documentOfBytes bytes.toList)
  catch
    | .noFileOrDirectory .. => return none
    | _ => return some (.error .unreadable)

def readFiles (paths : List String) : IO (List (String × Except FileError Value)) :=
  paths.filterMapM fun path => do
    return (← readFile path).map fun file => (path, file)

def surroundings (arguments : List String) : IO CommandLine.Surroundings := do
  let directories := PathName.upward (toString (← IO.currentDir))
  let searched := directories.map fun directory => PathName.within directory PolicyFile.fileName
  let named := arguments ++ arguments.filterMap fun argument =>
    (CommandLine.splitValue argument).2
  let files ← readFiles (named ++ named.map PathName.tidy ++ searched)
  return {
    files := fun path => files.lookup path
    directories := directories
    environment := {
      maxRetries := ← IO.getEnv Environment.maxRetriesName
      maxDuration := ← IO.getEnv Environment.maxDurationName }
    power := Platform.power
    unseeded := .ofSeed (← IO.rand 0 (Nat.pow 2 32)) }

def run (arguments : List String) : IO UInt32 := do
  let reply := CommandLine.run (← surroundings arguments) arguments
  IO.print reply.output
  match reply.ending with
  | .raised failure => IO.eprintln (failure.kind.name ++ ": " ++ failure.text)
  | _ => pure ()
  if let some message := reply.ending.message? then
    IO.eprintln ("Error: " ++ message)
  return UInt32.ofNat (reply.ending.exitCode?.getD 1)

end Reattempt.Main

def main (arguments : List String) : IO UInt32 := Reattempt.Main.run arguments
