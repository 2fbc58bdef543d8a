import ShellAtlas.Command.Line
import ShellAtlas.Index.Scan
import ShellAtlas.Json.Printer
import ShellAtlas.Json.Record
import ShellAtlas.Query.Point
import ShellAtlas.Query.Search
/-!
A command line carried out. The root is scanned, the file that the request names is analyzed if
the scan left it out, and the answer is written with columns in UTF-16 units.
-/
namespace ShellAtlas.Command

structure Exit where
  code : Nat
  stdout : String
  stderr : String
  deriving DecidableEq, Repr

def Exit.ofFailure (e : Failure) : Exit :=
  ⟨e.exitCode, "", "Error: " ++ e.message ++ "\n"⟩

def Exit.ofRefusal (r : Refusal) : Exit :=
  if r.exitCode = 0 then ⟨r.exitCode, r.message ++ "\n", ""⟩
  else ⟨r.exitCode, "", "error: " ++ r.message ++ "\n"⟩

def ensureAnalyzed (a : Atlas) (parse : String → Tree) (fs : FileSystem) (file : Path) :
    Except Failure (Atlas × String) :=
  if !fs.has file then .error (.fileNotFound file.display)
  else
    match fs.currentDirectory? with
    | none => .error (.io FileError.notFound.message)
    | some here =>
      let absolute := (here.join file).normalize
      let uri := absolute.uri
      match a.document? uri with
      | some _ => .ok (a, uri)
      | none =>
        match fs.readText absolute with
        | .error e => .error (.io e.message)
        | .ok content => .ok (a.analyze parse fs uri (String.ofList content), uri)

def unitRange (a : Atlas) (uri : String) (r : Range) : Range :=
  ⟨a.toUnits uri r.start, a.toUnits uri r.stop⟩

def unitLocation (a : Atlas) (l : Location) : Location :=
  ⟨l.uri, unitRange a l.uri l.range⟩

def unitSymbol (a : Atlas) (s : SymbolInformation) : SymbolInformation :=
  ⟨s.name, s.kind, unitLocation a s.location, s.containerName⟩

def lines (items : List String) : String :=
  String.intercalate "\n" items

def renderList {α : Type} (format : Format) (toJson : α → Json) (text : α → String)
    (items : List α) : String :=
  match format with
  | .json => Json.renderPretty (.array (items.map toJson))
  | .text => lines (items.map text)

def renderOptional (format : Format) (answer : Option String) : String :=
  match format with
  | .json =>
    Json.renderPretty
      (match answer with
        | some s => .text s
        | none => .null)
  | .text => answer.getD ""

def placeText (uri : String) (p : Position) : String :=
  uri ++ ":" ++ toString p.line ++ ":" ++ toString p.character

def diagnosticText (uri : String) (d : Diagnostic) : String :=
  placeText uri d.range.start ++ ": " ++ d.severity.label ++ ": " ++ d.message

def renderLocations (a : Atlas) (format : Format) (ls : List Location) : String :=
  renderList format Location.toJson (fun l => placeText l.uri l.range.start)
    (ls.map (unitLocation a))

def renderSymbols (a : Atlas) (format : Format) (ss : List SymbolInformation) : String :=
  renderList format SymbolInformation.toJson SymbolInformation.text (ss.map (unitSymbol a))

def answer (a : Atlas) (format : Format) (uri : String) : Request → String
  | .diagnostics _ =>
    let diagnostics := ((a.document? uri).map (·.diagnostics)).getD []
    renderList format Diagnostic.toJson (diagnosticText uri)
      (diagnostics.map fun d => ⟨unitRange a uri d.range, d.severity, d.message⟩)
  | .symbols _ => renderSymbols a format (a.symbolsOf uri)
  | .definition _ line character =>
    let p := a.ofUnits uri ⟨line, character⟩
    renderLocations a format (a.definitions uri ((a.wordAt? uri p).getD "") (some p))
  | .references word => renderLocations a format (a.references word)
  | .workspaceSymbols query exact _ => renderSymbols a format (a.matching query uri exact)
  | .sourced _ => renderList format Json.text id (a.sourced uri)
  | .word _ line character =>
    renderOptional format (a.wordAt? uri (a.ofUnits uri ⟨line, character⟩))
  | .comments _ line => renderOptional format (a.commentsAbove? uri line)

def Invocation.prepare (i : Invocation) (parse : String → Tree) (fs : FileSystem) :
    Except Failure (Atlas × String) :=
  let lister : Lister := fun root glob => Discovery.list fs root glob i.maxDepth
  let scanned := (Atlas.ofRoot i.settings parse fs lister i.root ⟨"", ""⟩).1
  match i.request.file? with
  | none => .ok (scanned, "")
  | some file => ensureAnalyzed scanned parse fs file

def Invocation.run (i : Invocation) (parse : String → Tree) (fs : FileSystem) : Exit :=
  match i.prepare parse fs with
  | .error e => .ofFailure e
  | .ok (a, uri) => ⟨0, answer a i.format uri i.request ++ "\n", ""⟩

end ShellAtlas.Command
