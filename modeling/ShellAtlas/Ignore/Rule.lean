import ShellAtlas.Glob.Parser
import ShellAtlas.Text.Blank
import ShellAtlas.Text.Utf8
/-!
Ignore rules. A rule file holds one pattern a line; comments and empty lines say nothing, and a
line that is no pattern is passed over. Of the rules that match a path the last decides.
-/
namespace ShellAtlas.Ignore

structure Rule where
  pattern : Glob
  keeps : Bool
  onlyDirectories : Bool
  deriving Repr

inductive Verdict where
  | none
  | ignore
  | keep
  deriving DecidableEq, Repr

def Verdict.or : Verdict → Verdict → Verdict
  | .none, v => v
  | v, _ => v

def beginsWith (start cs : List Char) : Bool :=
  start.isPrefixOf cs

def endsWith (close cs : List Char) : Bool :=
  close.isSuffixOf cs

/-- The pattern text of a rule line once its marks are off. Without a slash it matches at any
depth, and a closing `/**` matches only what is inside. -/
def patternText (anchored : Bool) (body : List Char) : List Char :=
  let deep := !anchored && !body.contains '/' && body ≠ ['*', '*']
  let text := if deep then ['*', '*', '/'] ++ body else body
  if endsWith ['/', '*', '*'] text then text ++ ['/', '*'] else text

/-- The rule of a line, none if the line says nothing. A backslash before a closing blank keeps
it, and one before a leading `!` or `#` takes away its meaning. -/
def Rule.ofLine? (line : List Char) : Option Rule :=
  if beginsWith ['#'] line then none
  else
    let line := if endsWith ['\\', ' '] line then line else Text.trimEnd line
    if line = [] then none
    else
      let marked := beginsWith ['\\', '!'] line || beginsWith ['\\', '#'] line
      let keeps := !marked && beginsWith ['!'] line
      let plain := if marked || keeps then line.drop 1 else line
      let anchored := !marked && beginsWith ['/'] plain
      let rooted := if anchored then plain.drop 1 else plain
      let onlyDirectories := endsWith ['/'] rooted
      let body := if onlyDirectories then dropEscape rooted.dropLast else rooted
      match Glob.parse true (patternText anchored body) with
      | .ok pattern => some ⟨pattern, keeps, onlyDirectories⟩
      | .error _ => none
where
  dropEscape (cs : List Char) : List Char :=
    if endsWith ['\\'] cs then cs.dropLast else cs

def rawLines : List (List UInt8) → List (List UInt8)
  | [] => []
  | [last] => [last]
  | l :: next :: rest =>
    (if l.getLast? = some 0x0D then l.dropLast else l) :: rawLines (next :: rest)

/-- The lines of a rule file up to the first that is no text. A byte order mark before the first
line is dropped. -/
def fileLines (content : List UInt8) : List (List Char) :=
  let texts := (rawLines (content.splitOn 0x0A)).map Text.decode?
  match (texts.takeWhile Option.isSome).filterMap id with
  | [] => []
  | first :: rest => first.dropWhile (·.toNat = 0xFEFF) :: rest

structure RuleFile where
  root : List UInt8
  rules : List Rule
  deriving Repr

def strip (start bs : List UInt8) : List UInt8 :=
  (Glob.without? start bs).getD bs

def dotSlash : List UInt8 :=
  [Path.dot, Path.slash]

namespace RuleFile

def nestingLimit : Nat := 250

/-- The rules of a content. A pattern beyond the limit makes the whole file say nothing. -/
def ofContent (directory content : List UInt8) : RuleFile :=
  let rules := (fileLines content).filterMap Rule.ofLine?
  ⟨strip dotSlash directory,
    if rules.any (nestingLimit < ·.pattern.nesting) then [] else rules⟩

def relative (f : RuleFile) (path : List UInt8) : List UInt8 :=
  let path := strip dotSlash path
  if (Path.mk f.root).components = [.here] || !path.contains Path.slash then path
  else
    match Glob.without? f.root path with
    | some rest => strip [Path.slash] rest
    | none => path

def verdict (f : RuleFile) (path : List UInt8) (isDirectory : Bool) : Verdict :=
  let path := f.relative path
  match f.rules.reverse.find? fun r =>
      (!r.onlyDirectories || isDirectory) && r.pattern.accepts path with
  | some r => if r.keeps then .keep else .ignore
  | none => .none

end RuleFile

end ShellAtlas.Ignore
