import ShellAtlas.FileSystem
import ShellAtlas.Ignore.Rule
import ShellAtlas.Text.Measure
/-!
Ignore rules along a chain of directories. Each directory can hold rules of three kinds, and a
kind decides by the nearest directory with a matching rule. General rules come before those of
version control, and these apply only below a directory under version control and not beyond the
nearest one.
-/
namespace ShellAtlas.Ignore

structure Level where
  general : RuleFile
  tracked : RuleFile
  excluded : RuleFile
  versioned : Bool
  deriving Repr

def nameOf (s : String) : List UInt8 :=
  s.toList.flatMap String.utf8EncodeChar

def contentAt (n : FileNode) (names : List String) : List UInt8 :=
  match names.foldl (fun at_ name => at_.bind (·.child? (nameOf name))) (some n) with
  | some (.file content) => content
  | _ => []

def firstLine? (content : List UInt8) : Option (List Char) :=
  if content = [] then none else (rawLines (content.splitOn 0x0A)).head?.bind Text.decode?

def fileAt? (fs : FileSystem) (p : Path) : Option (List UInt8) :=
  match fs.node p with
  | .ok (.file content) => some content
  | _ => none

/-- The directory of a repository that several working trees share, for a tree whose `.git` is a
file: its first line names the tree's own directory, where `commondir` leads on. -/
def sharedDirectory? (fs : FileSystem) (content : List UInt8) : Option Path := do
  let line ← firstLine? content
  if !beginsWith "gitdir: ".toList line then none
  else
    let own : Path := ⟨Text.bytes (line.drop 8)⟩
    let common ← firstLine? (← fileAt? fs (own.join ⟨nameOf "commondir"⟩))
    let path : Path := ⟨Text.bytes common⟩
    some (if common.head? = some '.' then own.join path else path)

def exclusions (fs : FileSystem) (n : FileNode) : List UInt8 :=
  match n.child? (nameOf ".git") with
  | some (.file content) =>
    ((sharedDirectory? fs content).bind fun p =>
      fileAt? fs (p.join ⟨nameOf "info/exclude"⟩)).getD []
  | _ => contentAt n [".git", "info", "exclude"]

def Level.of (fs : FileSystem) (directory : List UInt8) (n : FileNode) : Level where
  general := .ofContent directory (contentAt n [".ignore"])
  tracked := .ofContent directory (contentAt n [".gitignore"])
  excluded := .ofContent directory (exclusions fs n)
  versioned := (n.child? (nameOf ".git")).isSome || (n.child? (nameOf ".jj")).isSome

structure Chain where
  below : List Level
  above : List Level
  deriving Repr

def Chain.levels (c : Chain) (path absolute : List UInt8) : List (Level × List UInt8) :=
  c.below.map (·, path) ++ c.above.map (·, absolute)

namespace Chain

def search (kind : Level → RuleFile) (stop : Level → Bool) (isDirectory : Bool) :
    List (Level × List UInt8) → Verdict
  | [] => .none
  | (l, path) :: rest =>
    ((kind l).verdict path isDirectory).or
      (if stop l then .none else search kind stop isDirectory rest)

def verdict (c : Chain) (path absolute : List UInt8) (isDirectory : Bool) : Verdict :=
  let levels := c.levels path absolute
  let general := search Level.general (fun _ => false) isDirectory levels
  if levels.any (·.1.versioned) then
    (general.or (search Level.tracked Level.versioned isDirectory levels)).or
      (search Level.excluded Level.versioned isDirectory levels)
  else general

end Chain

end ShellAtlas.Ignore
