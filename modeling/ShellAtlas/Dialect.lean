import ShellAtlas.Path
import ShellAtlas.Text.Blank
import ShellAtlas.Text.Line
/-!
Shell dialects and how a file shows its own. A first line that starts with `#!` decides alone;
without one the extension of the file name does.
-/
namespace ShellAtlas

inductive Dialect where
  | sh
  | bash
  | dash
  | ksh
  | zsh
  deriving DecidableEq, Repr

namespace Dialect

def all : List Dialect :=
  [.sh, .bash, .dash, .ksh, .zsh]

def name : Dialect → String
  | .sh => "sh"
  | .bash => "bash"
  | .dash => "dash"
  | .ksh => "ksh"
  | .zsh => "zsh"

def extensions : Dialect → List String
  | .sh => ["sh", "command"]
  | .bash => ["bash", "inc"]
  | .dash => ["dash"]
  | .ksh => ["ksh"]
  | .zsh => ["zsh"]

/-- Lower case as far as it can lead to an ASCII word: the letters A to Z, and U+212A, the only
character beyond ASCII whose lower-case form is one ASCII letter. -/
def lower (c : Char) : Char :=
  if c.toNat = 0x212A then 'k' else c.toLower

def ofExtension? (extension : List Char) : Option Dialect :=
  all.find? fun d => d.extensions.any fun e => e.toList = extension.map lower

def ofPath? (p : Path) : Option Dialect :=
  (p.extension?.bind Text.decode?).bind ofExtension?

def after? : List Char → List Char → Option (List Char)
  | [], cs => some cs
  | _ :: _, [] => none
  | w :: ws, c :: cs => if c = w then after? ws cs else none

def afterSlashes : List Char → List (List Char)
  | [] => []
  | c :: cs =>
    if Text.isBlank c then []
    else if c = '/' then afterSlashes cs ++ [cs]
    else afterSlashes cs

def afterWord? (cs : List Char) : Option (List Char) :=
  match cs.dropWhile fun c => !Text.isBlank c with
  | [] => none
  | _ :: rest => some (Text.trimStart rest)

/-- What follows some number of leading words that start with a hyphen and go on after it, within
`fuel` words; most words first. -/
def afterOptions : Nat → List Char → List (List Char)
  | 0, cs => [cs]
  | fuel + 1, cs =>
    match cs with
    | '-' :: c :: rest =>
      if Text.isBlank c then [cs]
      else
        match afterWord? (c :: rest) with
        | some next => afterOptions fuel next ++ [cs]
        | none => [cs]
    | _ => [cs]

def afterEnv (cs : List Char) : List (List Char) :=
  match after? ['e', 'n', 'v'] cs with
  | some (c :: rest) =>
    if Text.isBlank c then afterOptions rest.length (Text.trimStart rest) ++ [cs] else [cs]
  | _ => [cs]

def named? (cs : List Char) : Option Dialect :=
  all.find? fun d =>
    match after? d.name.toList cs with
    | some [] => true
    | some (c :: _) => Text.isBlank c
    | none => false

def ofShebang? (line : List Char) : Option Dialect :=
  (after? ['#', '!'] (Text.trimEnd line)).bind fun cs =>
    let start := Text.trimStart cs
    ((afterSlashes start ++ [start]).flatMap afterEnv).findSome? named?

def shebang? (content : List Char) : Option (List Char) :=
  let first := content.takeWhile (· ≠ '\n')
  if (after? ['#', '!'] first).isSome then some (Text.trimEnd first) else none

inductive Reason where
  | foreign (line : List Char)
  | notShell
  deriving DecidableEq, Repr

def detect (p : Path) (content : List Char) : Except Reason Dialect :=
  match shebang? content with
  | some line =>
    match ofShebang? line with
    | some d => .ok d
    | none => .error (.foreign line)
  | none =>
    match ofPath? p with
    | some d => .ok d
    | none => .error .notShell

end Dialect

end ShellAtlas
