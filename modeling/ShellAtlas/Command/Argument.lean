import ShellAtlas.Sourcing
/-!
Arguments of the command line: what can be given, how each value is read, and how the words of one
place, before or after the command, are taken apart.

An option's value is read when the next option or operand starts, or at the end. A word that is
no option of its place is refused before a value that is still unread.
-/
namespace ShellAtlas.Command

inductive Refusal where
  | help
  | version
  | nothingGiven
  | missingCommand
  | invalidCommand
  | unknownArgument
  | conflict
  | invalidValue
  | invalidNumber
  | valueForFlag
  | missingArgument
  deriving DecidableEq, Repr

def Refusal.exitCode : Refusal → Nat
  | .help => 0
  | .version => 0
  | _ => 2

def Refusal.message : Refusal → String
  | .help => "Index the shell scripts of a workspace and query symbols, references and sourcing"
  | .version => "shell-index 0.3.0"
  | .nothingGiven => "a command is required"
  | .missingCommand => "a command is required"
  | .invalidCommand => "there is no such command"
  | .unknownArgument => "unexpected argument"
  | .conflict => "an argument is given more than once"
  | .invalidValue => "invalid value"
  | .invalidNumber => "invalid value"
  | .valueForFlag => "a flag takes no value"
  | .missingArgument => "a required argument is missing"

inductive Format where
  | text
  | json
  deriving DecidableEq, Repr

inductive Slot where
  | root
  | format
  | verbose
  | glob
  | importsOnly
  | maxFileSize
  | maxDepth
  | exact
  | origin
  | help
  | version
  | file
  | line
  | character
  | word
  deriving DecidableEq, Repr

inductive Value where
  | path (p : Path)
  | text (s : String)
  | number (n : Nat)
  | format (f : Format)
  | flag (b : Bool)
  deriving DecidableEq, Repr

def digits? (ds : List Char) : Option Nat :=
  if ds ≠ [] && ds.all Char.isDigit then
    some (ds.foldl (fun n c => n * 10 + (c.toNat - 0x30)) 0)
  else none

def unsigned? (bound : Nat) (cs : List Char) : Option Nat :=
  (digits? (if cs.head? = some '+' then cs.tail else cs)).filter (· < bound)

def signed? (bound : Nat) (cs : List Char) : Option Nat :=
  match cs with
  | '-' :: ds => (digits? ds).filter (· = 0)
  | _ => unsigned? bound cs

def boolish? (cs : List Char) : Option Bool :=
  let word := String.ofList (cs.map Char.toLower)
  if ["y", "yes", "t", "true", "on", "1"].contains word then some true
  else if ["n", "no", "f", "false", "off", "0"].contains word then some false
  else none

def numberOr : Option Nat → Except Refusal Value
  | some n => .ok (.number n)
  | none => .error .invalidNumber

def pathOr (s : String) : Except Refusal Value :=
  if s = "" then .error .invalidValue else .ok (.path (.ofText s))

def Slot.read (slot : Slot) (s : String) : Except Refusal Value :=
  match slot with
  | .root => pathOr s
  | .origin => pathOr s
  | .file => pathOr s
  | .format =>
    if s = "text" then .ok (.format .text)
    else if s = "json" then .ok (.format .json)
    else .error .invalidValue
  | .maxFileSize => numberOr (unsigned? UInt64.size s.toList)
  | .maxDepth => numberOr (unsigned? UInt64.size s.toList)
  | .line => numberOr (signed? UInt32.size s.toList)
  | .character => numberOr (signed? UInt32.size s.toList)
  | .importsOnly =>
    match boolish? s.toList with
    | some b => .ok (.flag b)
    | none => .error .invalidNumber
  | _ => .ok (.text s)

structure Switch where
  slot : Slot
  long : String
  short : Option Char
  takesValue : Bool
  deriving DecidableEq, Repr

def sharedSwitches : List Switch :=
  [⟨.root, "root", some 'r', true⟩, ⟨.format, "format", some 'f', true⟩,
    ⟨.verbose, "verbose", some 'v', false⟩, ⟨.glob, "glob", none, true⟩,
    ⟨.importsOnly, "imports-only", none, false⟩, ⟨.maxFileSize, "max-file-size", none, true⟩,
    ⟨.maxDepth, "max-depth", none, true⟩, ⟨.help, "help", some 'h', false⟩]

inductive Word where
  | divider
  | long (name : List Char) (value : Option String)
  | short (letters : List Char)
  | plain (text : String)
  deriving DecidableEq, Repr

def Word.of (s : String) : Word :=
  match s.toList with
  | ['-', '-'] => .divider
  | '-' :: '-' :: rest =>
    .long (rest.takeWhile (· ≠ '='))
      (match rest.dropWhile (· ≠ '=') with
        | [] => none
        | _ :: value => some (String.ofList value))
  | '-' :: c :: rest => .short (c :: rest)
  | _ => .plain s

structure Reading where
  values : List (Slot × Value)
  /-- The slot whose value is not read yet; without a text it still waits for one. -/
  pending : Option (Slot × Option String)
  operands : List Slot
  divided : Bool
  deriving DecidableEq, Repr

namespace Reading

def start (operands : List Slot) : Reading :=
  ⟨[], none, operands, false⟩

def value? (r : Reading) (slot : Slot) : Option Value :=
  (r.values.find? (·.1 = slot)).map (·.2)

def has (r : Reading) (slot : Slot) : Bool :=
  (r.value? slot).isSome

def store (r : Reading) (slot : Slot) (v : Except Refusal Value) : Except Refusal Reading :=
  if r.has slot then .error .conflict
  else v.map fun v => ⟨r.values ++ [(slot, v)], none, r.operands, r.divided⟩

def settle (r : Reading) : Except Refusal Reading :=
  match r.pending with
  | none => .ok r
  | some (_, none) => .error .invalidValue
  | some (slot, some s) => r.store slot (slot.read s)

def flag (r : Reading) (slot : Slot) : Except Refusal Reading := do
  let r ← r.settle
  match slot with
  | .help => .error .help
  | .version => .error .version
  | _ => r.store slot (.ok (.flag true))

def attached (r : Reading) (slot : Slot) (s : String) : Except Refusal Reading := do
  (← r.settle).store slot (slot.read s)

def await (r : Reading) (slot : Slot) : Except Refusal Reading := do
  let r ← r.settle
  .ok ⟨r.values, some (slot, none), r.operands, r.divided⟩

def long (r : Reading) (switches : List Switch) (name : List Char) (value : Option String) :
    Except Refusal Reading :=
  match switches.find? (·.long.toList = name) with
  | none => .error .unknownArgument
  | some s =>
    match s.takesValue, value with
    | true, some v => r.attached s.slot v
    | true, none => r.await s.slot
    | false, some _ => .error .valueForFlag
    | false, none => r.flag s.slot

def short (switches : List Switch) : Reading → List Char → Except Refusal Reading
  | r, [] => .ok r
  | r, c :: rest =>
    match switches.find? (·.short = some c) with
    | none => .error .unknownArgument
    | some s =>
      if s.takesValue then
        match rest with
        | [] => r.await s.slot
        | '=' :: value => r.attached s.slot (String.ofList value)
        | value => r.attached s.slot (String.ofList value)
      else (r.flag s.slot).bind fun next => short switches next rest

def operand (r : Reading) (s : String) : Except Refusal Reading :=
  match r.operands with
  | [] => .error .unknownArgument
  | slot :: rest => r.settle.map fun r => ⟨r.values, some (slot, some s), rest, r.divided⟩

def isWaiting (r : Reading) : Bool :=
  !r.divided && r.pending.any (·.2.isNone)

def take (r : Reading) (switches : List Switch) (s : String) : Except Refusal Reading :=
  if r.divided then r.operand s
  else
    match Word.of s with
    | .divider => .ok ⟨r.values, r.pending, r.operands, true⟩
    | .long name value => r.long switches name value
    | .short letters => short switches r letters
    | .plain s =>
      match r.pending with
      | some (slot, none) => .ok ⟨r.values, some (slot, some s), r.operands, r.divided⟩
      | _ => r.operand s

end Reading

structure Environment where
  glob : Option String
  importsOnly : Option String
  maxFileSize : Option String
  deriving DecidableEq, Repr

namespace Environment

def given (e : Environment) : List (Slot × String) :=
  [(Slot.glob, e.glob), (Slot.importsOnly, e.importsOnly), (Slot.maxFileSize, e.maxFileSize)].filterMap
    fun s => s.2.map (s.1, ·)

def values (e : Environment) (r : Reading) : Except Refusal (List (Slot × Value)) :=
  (e.given.filter fun s => !r.has s.1).mapM fun s => (s.1.read s.2).map (s.1, ·)

end Environment

end ShellAtlas.Command
