import ShellAtlas.Position
/-!
What the index says about a script: the names it declares, the faults of its text, and the files
it sources.
-/
namespace ShellAtlas

inductive SymbolKind where
  | variable
  | function
  deriving DecidableEq, Repr

namespace SymbolKind

def name : SymbolKind → String
  | .variable => "variable"
  | .function => "function"

def code : SymbolKind → Nat
  | .function => 12
  | .variable => 13

end SymbolKind

structure SymbolInformation where
  name : String
  kind : SymbolKind
  location : Location
  containerName : Option String
  deriving DecidableEq, Repr

def SymbolInformation.text (s : SymbolInformation) : String :=
  s.name ++ " (" ++ s.kind.name ++ "/" ++ toString s.kind.code ++ ") " ++ s.location.uri ++ ":" ++
    toString s.location.range.start.line ++ ":" ++ toString s.location.range.start.character

structure DeclaredSymbol where
  name : String
  kind : SymbolKind
  range : Range
  uri : String
  containerName : Option String
  deriving DecidableEq, Repr

namespace DeclaredSymbol

def location (s : DeclaredSymbol) : Location :=
  ⟨s.uri, s.range⟩

def information (s : DeclaredSymbol) : SymbolInformation :=
  ⟨s.name, s.kind, s.location, s.containerName⟩

end DeclaredSymbol

inductive Severity where
  | error
  deriving DecidableEq, Repr

def Severity.label : Severity → String
  | .error => "Error"

def Severity.name : Severity → String
  | .error => "error"

structure Diagnostic where
  range : Range
  severity : Severity
  message : String
  deriving DecidableEq, Repr

inductive Target where
  | resolved (uri : String)
  | unresolved (uri : String)
  deriving DecidableEq, Repr

namespace Target

def uri : Target → String
  | .resolved u => u
  | .unresolved u => u

def isResolved : Target → Bool
  | .resolved _ => true
  | .unresolved _ => false

/-- The resolved targets come first, and within each half the URIs decide. -/
instance : Ord Target where
  compare
    | .resolved a, .resolved b => compare a b
    | .resolved _, .unresolved _ => .lt
    | .unresolved _, .resolved _ => .gt
    | .unresolved a, .unresolved b => compare a b

end Target

end ShellAtlas
