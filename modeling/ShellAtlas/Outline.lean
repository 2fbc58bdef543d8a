import ShellAtlas.Symbol
import ShellAtlas.Text.Blank
import ShellAtlas.Tree.Node
/-!
The outline of a script: the names it declares, the files it sources by a literal path, and the
faults the syntax tree shows, all in walking order. A fault never hides what stands around it.
-/
namespace ShellAtlas

inductive Category where
  | assignment
  | functionDefinition
  | command
  | error
  | missing
  | other
  deriving DecidableEq, Repr

def Tree.category (t : Tree) : Category :=
  if t.label.missing then .missing
  else if t.label.error then .error
  else if t.kind = "variable_assignment" then .assignment
  else if t.kind = "function_definition" then .functionDefinition
  else if t.kind = "command" then .command
  else .other

def Tree.isComment (t : Tree) : Bool :=
  t.kind = "comment"

structure SourcingArgument where
  raw : String
  range : Range
  deriving DecidableEq, Repr

def stripQuotes (cs : List Char) : List Char :=
  match cs with
  | q :: rest =>
    if (q = '"' || q = '\x27') && rest.getLast? = some q then rest.dropLast else cs
  | [] => cs

def literal? (source : List Char) (t : Tree) : Option (List Char) :=
  if t.kind = "word" then some (t.text source)
  else if t.kind = "raw_string" then some (stripQuotes (t.text source))
  else if t.kind = "string" && t.namedChildren.all (·.kind = "string_content") then
    some (stripQuotes (t.text source))
  else none

def isSourcingWord (cs : List Char) : Bool :=
  cs = "source".toList || cs = ".".toList

def sourcingArgument? (source : List Char) (t : Tree) : Option SourcingArgument := do
  let name ← t.field? "name"
  if isSourcingWord (Text.trim (name.text source)) then
    let argument ← t.field? "argument"
    let raw ← literal? source argument
    if raw = [] || raw.head? = some '~' then none
    else some ⟨String.ofList raw, argument.range source⟩
  else none

def container? (source : List Char) (above : List Tree) : Option String :=
  (above.find? (·.kind = "function_definition")).bind fun f =>
    (f.nameText? source).map String.ofList

def declared? (uri : String) (source : List Char) (kind : SymbolKind) (v : Visit) :
    Option DeclaredSymbol :=
  (v.node.nameText? source).map fun name =>
    ⟨String.ofList name, kind, v.node.range source, uri, container? source v.above⟩

def symbol? (uri : String) (source : List Char) (v : Visit) : Option DeclaredSymbol :=
  match v.node.category with
  | .assignment => declared? uri source .variable v
  | .functionDefinition => declared? uri source .function v
  | _ => none

def sourcing? (source : List Char) (v : Visit) : Option SourcingArgument :=
  match v.node.category with
  | .command => sourcingArgument? source v.node
  | _ => none

def diagnostic? (source : List Char) (v : Visit) : Option Diagnostic :=
  match v.node.category with
  | .error => some ⟨v.node.range source, .error, "Failed to parse expression"⟩
  | .missing =>
    some ⟨v.node.range source, .error,
      "Syntax error: expected \"" ++ v.node.kind ++ "\" somewhere in the file"⟩
  | _ => none

structure Outline where
  symbols : List DeclaredSymbol
  diagnostics : List Diagnostic
  sourcing : List SourcingArgument
  deriving DecidableEq, Repr

def Outline.of (uri : String) (source : List Char) (t : Tree) : Outline where
  symbols := t.walk.filterMap (symbol? uri source)
  diagnostics := t.walk.filterMap (diagnostic? source)
  sourcing := t.walk.filterMap (sourcing? source)

end ShellAtlas
