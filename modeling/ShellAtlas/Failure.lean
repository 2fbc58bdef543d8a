/-!
What can go wrong, with the message and the exit code of each cause.
-/
namespace ShellAtlas

inductive Failure where
  | fileNotFound (path : String)
  | discovery (root message : String)
  | invalidGlob (pattern message : String)
  | parseFailure (message : String)
  | io (message : String)
  | json
  deriving DecidableEq, Repr

namespace Failure

def message : Failure → String
  | .fileNotFound path => "File not found: " ++ path
  | .discovery root message => "File discovery failed under " ++ root ++ ": " ++ message
  | .invalidGlob pattern message => "Invalid glob pattern \"" ++ pattern ++ "\": " ++ message
  | .parseFailure message => "Parse failure: " ++ message
  | .io message => "IO error: " ++ message
  | .json => "JSON error"

def exitCode : Failure → Nat
  | .fileNotFound _ => 2
  | .invalidGlob _ _ => 3
  | .discovery _ _ => 4
  | .parseFailure _ => 5
  | .io _ => 1
  | .json => 1

end Failure

end ShellAtlas
