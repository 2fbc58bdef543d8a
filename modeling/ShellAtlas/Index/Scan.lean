import ShellAtlas.Dialect
import ShellAtlas.Discovery
import ShellAtlas.Index.Atlas
/-!
Scanning a directory into an index. Every listed file is indexed, skipped or failed, and reported
with one line. A listing that fails is reported and leaves the index as it was. There is always a
parser: that a file fails for want of one is left out.
-/
namespace ShellAtlas

inductive Notice where
  | log (message : String)
  | warn (message : String)
  deriving DecidableEq, Repr

structure Report where
  candidates : Nat
  analyzed : Nat
  skipped : Nat
  failed : Nat
  warning : Option String
  notices : List Notice
  deriving DecidableEq, Repr

/-- The seconds that a scan has taken, when the files are listed and at its end. -/
structure Clock where
  listed : String
  finished : String
  deriving DecidableEq, Repr

inductive Outcome where
  | indexed (document : Document)
  | skipped (uri message : String)
  | failed (uri message : String)

namespace Outcome

def notice : Outcome → Notice
  | .indexed d => .log ("Analyzing " ++ d.uri)
  | .skipped uri message => .log ("Skipping file " ++ uri ++ " " ++ message)
  | .failed uri message => .warn ("Failed analyzing " ++ uri ++ ". Error: " ++ message)

def isIndexed : Outcome → Bool
  | .indexed _ => true
  | _ => false

def isSkipped : Outcome → Bool
  | .skipped _ _ => true
  | _ => false

def isFailed : Outcome → Bool
  | .failed _ _ => true
  | _ => false

end Outcome

abbrev Lister := Path → String → Except Failure (List Path)

namespace Atlas

def load (s : Settings) (parse : String → Tree) (fs : FileSystem) (p : Path) : Outcome :=
  match fs.node p with
  | .error e => .failed p.uri e.message
  | .ok n =>
    if s.maxFileSize < fs.size n then
      .skipped p.uri
        ("of " ++ toString (fs.size n) ++ " bytes (limit " ++ toString s.maxFileSize ++ " bytes)")
    else
      match fs.readText p with
      | .error e => .failed p.uri e.message
      | .ok content =>
        match Dialect.detect p content with
        | .ok _ => .indexed (.build parse fs s.scriptExtension p.uri (String.ofList content))
        | .error (.foreign line) =>
          .skipped p.uri ("with shebang \"" ++ String.ofList (Text.ellipsis 80 line) ++ "\"")
        | .error .notShell => .skipped p.uri "without a shell shebang or extension"

def putAll (a : Atlas) (outcomes : List Outcome) : Atlas :=
  outcomes.foldl
    (fun a o =>
      match o with
      | .indexed d => a.put d
      | _ => a)
    a

def scanRoot (fs : FileSystem) (root : Path) : Path :=
  match fs.currentDirectory? with
  | some here => (here.join root).normalize
  | none => root.normalize

def scan (a : Atlas) (parse : String → Tree) (fs : FileSystem) (lister : Lister) (root : Path)
    (clock : Clock) : Atlas × Report :=
  let root := scanRoot fs root
  let glob := a.settings.globPattern
  let listed := lister root glob
  let warning := match listed with
    | .ok _ => none
    | .error e =>
      some ("Failed to analyze shell files using the glob \"" ++ glob ++
        "\". The experience will be degraded. Error: " ++ e.message)
  let paths := match listed with
    | .ok paths => paths
    | .error _ => []
  let outcomes := paths.map (load a.settings parse fs)
  let notices :=
    [.log ("Analyzing files matching glob \"" ++ glob ++ "\" inside " ++ root.display)] ++
    (warning.map Notice.warn).toList ++
    [.log ("Glob resolved with " ++ toString paths.length ++ " files after " ++ clock.listed ++
      " seconds")] ++
    outcomes.map (·.notice) ++
    [.log ("Analyzer finished after " ++ clock.finished ++ " seconds")]
  (a.putAll outcomes,
    ⟨paths.length, outcomes.countP (·.isIndexed), outcomes.countP (·.isSkipped),
      outcomes.countP (·.isFailed), warning, notices⟩)

def ofRoot (settings : Settings) (parse : String → Tree) (fs : FileSystem) (lister : Lister)
    (root : Path) (clock : Clock) : Atlas × Report :=
  (empty settings).scan parse fs lister root clock

end Atlas

end ShellAtlas
