import ShellAtlas.Command.Argument
import ShellAtlas.Settings
/-!
The command line as a whole: options, a command, and the command's own words. An option may stand
on either side of the command; the later side wins, and a variable stands in where neither has it.
-/
namespace ShellAtlas.Command

inductive Name where
  | diagnostics
  | symbols
  | definition
  | references
  | workspaceSymbols
  | sourced
  | word
  | comments
  deriving DecidableEq, Repr

namespace Name

def all : List Name :=
  [.diagnostics, .symbols, .definition, .references, .workspaceSymbols, .sourced, .word, .comments]

def text : Name → String
  | .diagnostics => "diagnostics"
  | .symbols => "symbols"
  | .definition => "definition"
  | .references => "references"
  | .workspaceSymbols => "workspace-symbols"
  | .sourced => "sourced"
  | .word => "word"
  | .comments => "comments"

def ofText? (s : String) : Option Name :=
  all.find? (·.text = s)

def operands : Name → List Slot
  | .diagnostics => [.file]
  | .symbols => [.file]
  | .definition => [.file, .line, .character]
  | .references => [.word]
  | .workspaceSymbols => [.word]
  | .sourced => [.file]
  | .word => [.file, .line, .character]
  | .comments => [.file, .line]

def switches : Name → List Switch
  | .workspaceSymbols =>
    sharedSwitches ++ [⟨.exact, "exact", none, false⟩, ⟨.origin, "from", none, true⟩]
  | _ => sharedSwitches

end Name

def leadingSwitches : List Switch :=
  sharedSwitches ++ [⟨.version, "version", some 'V', false⟩]

inductive Request where
  | diagnostics (file : Path)
  | symbols (file : Path)
  | definition (file : Path) (line character : Nat)
  | references (word : String)
  | workspaceSymbols (query : String) (exact : Bool) (origin : Option Path)
  | sourced (file : Path)
  | word (file : Path) (line character : Nat)
  | comments (file : Path) (line : Nat)
  deriving DecidableEq, Repr

def Request.file? : Request → Option Path
  | .diagnostics file => some file
  | .symbols file => some file
  | .definition file _ _ => some file
  | .references _ => none
  | .workspaceSymbols _ _ origin => origin
  | .sourced file => some file
  | .word file _ _ => some file
  | .comments file _ => some file

structure Invocation where
  root : Path
  format : Format
  verbose : Bool
  settings : Settings
  maxDepth : Option Nat
  request : Request
  deriving DecidableEq, Repr

def helpRefusal : List String → Refusal
  | [] => .help
  | [s] => if s = "help" || (Name.ofText? s).isSome then .help else .invalidCommand
  | _ => .invalidCommand

def notCommand (divided : Bool) (s : String) : Refusal :=
  if divided && (s = "help" || (Name.ofText? s).isSome) then .unknownArgument else .invalidCommand

def readLeading : Reading → List String → Except Refusal (Reading × Option (Name × List String))
  | r, [] => .ok (r, none)
  | r, s :: rest =>
    if r.divided then .error (notCommand true s)
    else if r.isWaiting then (r.take leadingSwitches s).bind fun next => readLeading next rest
    else
      match Name.ofText? s with
      | some name => .ok (r, some (name, rest))
      | none =>
        if s = "help" then .error (helpRefusal rest)
        else
          match Word.of s with
          | .plain _ => .error (notCommand false s)
          | _ => (r.take leadingSwitches s).bind fun next => readLeading next rest

def finish (e : Environment) (r : Reading) : Except Refusal (Reading × List (Slot × Value)) := do
  let r ← r.settle
  .ok (r, ← e.values r)

def choose (inner outer : Reading) (standing : List (Slot × Value)) (slot : Slot) : Option Value :=
  ((inner.value? slot).or (outer.value? slot)).or ((standing.find? (·.1 = slot)).map (·.2))

def pathIn (f : Slot → Option Value) (slot : Slot) : Option Path :=
  match f slot with
  | some (.path p) => some p
  | _ => none

def numberIn (f : Slot → Option Value) (slot : Slot) : Option Nat :=
  match f slot with
  | some (.number n) => some n
  | _ => none

def textIn (f : Slot → Option Value) (slot : Slot) : Option String :=
  match f slot with
  | some (.text s) => some s
  | _ => none

def flagIn (f : Slot → Option Value) (slot : Slot) : Bool :=
  match f slot with
  | some (.flag b) => b
  | _ => false

def formatIn (f : Slot → Option Value) : Format :=
  match f .format with
  | some (.format x) => x
  | _ => .text

def request? (name : Name) (f : Slot → Option Value) : Option Request :=
  match name with
  | .diagnostics => do some (.diagnostics (← pathIn f .file))
  | .symbols => do some (.symbols (← pathIn f .file))
  | .definition => do
    some (.definition (← pathIn f .file) (← numberIn f .line) (← numberIn f .character))
  | .references => do some (.references (← textIn f .word))
  | .workspaceSymbols => do
    some (.workspaceSymbols (← textIn f .word) (flagIn f .exact) (pathIn f .origin))
  | .sourced => do some (.sourced (← pathIn f .file))
  | .word => do some (.word (← pathIn f .file) (← numberIn f .line) (← numberIn f .character))
  | .comments => do some (.comments (← pathIn f .file) (← numberIn f .line))

def settingsOf (f : Slot → Option Value) : Settings where
  globPattern := (textIn f .glob).getD Settings.standard.globPattern
  importsOnly := flagIn f .importsOnly
  maxFileSize := (numberIn f .maxFileSize).getD Settings.standard.maxFileSize
  scriptExtension := Settings.standard.scriptExtension

def withoutCommand (r : Reading) (standing : List (Slot × Value)) : Refusal :=
  if r.values.isEmpty && standing.isEmpty then .nothingGiven else .missingCommand

/-- A command line read. What stands after the command is refused before what stands before it
and is not read yet. -/
def parse (args : List String) (e : Environment) : Except Refusal Invocation := do
  match ← readLeading (.start []) args with
  | (outer, none) =>
    let (outer, standing) ← finish e outer
    .error (withoutCommand outer standing)
  | (outer, some (name, rest)) =>
    let inner ← rest.foldlM (fun r s => r.take name.switches s) (.start name.operands)
    let (inner, standing) ← finish e inner
    if !inner.operands.isEmpty then .error .missingArgument
    else
      let (outer, more) ← finish e outer
      let f := choose inner outer (standing ++ more)
      match request? name f with
      | none => .error .missingArgument
      | some request =>
        .ok ⟨(pathIn f .root).getD ⟨[Path.dot]⟩, formatIn f, flagIn f .verbose, settingsOf f,
          numberIn f .maxDepth, request⟩

end ShellAtlas.Command
