import ShellAtlas.Command.Run
import ShellAtlas.Snapshot
/-!
The program: arguments from the command line, options left out from the environment, files and
syntax trees from a snapshot on standard input.
-/
namespace ShellAtlas.Command

partial def readAll (input : IO.FS.Stream) (done : String) : IO String := do
  let line ← input.getLine
  if line.isEmpty then return done
  readAll input (done ++ line)

def environment : IO Environment := do
  return ⟨← IO.getEnv "GLOB_PATTERN", ← IO.getEnv "COMPLETION_BASED_ON_IMPORTS",
    ← IO.getEnv "MAX_FILE_SIZE"⟩

def snapshot? : IO (Option Snapshot) := do
  let text ← readAll (← IO.getStdin) ""
  return (Json.parse? text.toList).bind Snapshot.ofJson?

def Exit.write (e : Exit) : IO UInt32 := do
  IO.print e.stdout
  IO.eprint e.stderr
  return e.code.toUInt32

end ShellAtlas.Command

open ShellAtlas ShellAtlas.Command

def main (args : List String) : IO UInt32 := do
  match parse args (← environment) with
  | .error r => (Exit.ofRefusal r).write
  | .ok i =>
    match ← snapshot? with
    | none => (Exit.ofFailure .json).write
    | some s => (i.run s.parse s.files).write
