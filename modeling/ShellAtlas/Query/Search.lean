import ShellAtlas.Query.Closure
/-!
Questions about names: which symbols a file sees, where a name is defined, and which tokens are
uses of it.
-/
namespace ShellAtlas.Atlas

def symbolsOf (a : Atlas) (uri : String) : List SymbolInformation :=
  match a.document? uri with
  | some d => d.symbols.map (·.information)
  | none => []

def visibleFrom (a : Atlas) (uri : String) : List String :=
  uri :: (if a.settings.importsOnly then a.sourced uri else a.uris).filter (· ≠ uri)

def isNamed (word : String) (exact : Bool) (s : DeclaredSymbol) : Bool :=
  if exact then s.name = word else word.toList.isPrefixOf s.name.toList

def distinct (seen : List (String × Location)) : List DeclaredSymbol → List DeclaredSymbol
  | [] => []
  | s :: rest =>
    if seen.contains (s.name, s.location) then distinct seen rest
    else s :: distinct ((s.name, s.location) :: seen) rest

def matching (a : Atlas) (word uri : String) (exact : Bool) : List SymbolInformation :=
  let all := (a.visibleFrom uri).flatMap fun u =>
    match a.document? u with
    | some d => d.symbols.filter (isNamed word exact)
    | none => []
  (distinct [] all).map (·.information)

def statementAt? (a : Atlas) (uri : String) (p : Position) : Option Statement :=
  (a.document? uri).bind fun d => d.sourcing.find? (·.range.contains p)

/-- Where a word is defined as seen from a document. On the path of a sourcing statement that is
the start of the sourced file. -/
def definitions (a : Atlas) (uri word : String) (p : Option Position) : List Location :=
  match p.bind (a.statementAt? uri) with
  | some s => [⟨s.target.uri, .fileStart⟩]
  | none => (a.matching word uri true).map (·.location)

def isUse (source word : List Char) (t : Tree) : Bool :=
  t.isLeaf && !t.isComment && Text.trim (t.text source) = word

def occurrences (a : Atlas) (uri word : String) : List Location :=
  if word = "" then []
  else
    match a.document? uri with
    | none => []
    | some d =>
      (d.tree.walk.filter fun v => isUse d.text word.toList v.node).map fun v =>
        ⟨uri, v.node.range d.text⟩

def references (a : Atlas) (word : String) : List Location :=
  a.uris.flatMap fun uri => a.occurrences uri word

end ShellAtlas.Atlas
