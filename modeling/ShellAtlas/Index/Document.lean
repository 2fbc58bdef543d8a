import ShellAtlas.Outline
import ShellAtlas.Sourcing
/-!
An analyzed document: a text with its tree, its outline, and where its sourcing statements led
when it was analyzed. Every text has a tree, which is a function of the text. What is kept of a text
that a parser gives no tree for, an empty outline with one fault, is left out.
-/
namespace ShellAtlas

structure Statement where
  raw : String
  range : Range
  target : Target
  deriving DecidableEq, Repr

structure Document where
  uri : String
  content : String
  tree : Tree
  symbols : List DeclaredSymbol
  targets : List Target
  sourcing : List Statement
  diagnostics : List Diagnostic

namespace Document

def addTarget (t : Target) : List Target → List Target
  | [] => [t]
  | s :: rest =>
    match compare t s with
    | .lt => t :: s :: rest
    | .eq => s :: rest
    | .gt => s :: addTarget t rest

def targetSet (ts : List Target) : List Target :=
  ts.foldl (fun done t => addTarget t done) []

def build (parse : String → Tree) (fs : FileSystem) (extension uri content : String) : Document :=
  let tree := parse content
  let outline := Outline.of uri content.toList tree
  let sourcing := outline.sourcing.map fun a =>
    (⟨a.raw, a.range, Sourcing.resolve fs extension a.raw uri⟩ : Statement)
  ⟨uri, content, tree, outline.symbols, targetSet (sourcing.map (·.target)), sourcing,
    outline.diagnostics⟩

def text (d : Document) : List Char :=
  d.content.toList

def line? (d : Document) (i : Nat) : Option (List Char) :=
  Text.lineAt? d.text i

end Document

end ShellAtlas
