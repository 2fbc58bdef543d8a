import ShellAtlas.Failure
import ShellAtlas.Ignore.Level
/-!
The files of a directory that a glob pattern selects. The walk enters every directory that is not
ignored, hidden or of a name that is never entered, down to a depth; what it finds is listed in
the order of the paths' components.
-/
namespace ShellAtlas

namespace Discovery

open Ignore

/-- Names that are never listed or entered: hidden ones and those of build results and caches. A
name that is no text is not among them. -/
def isSkippedName (name : List UInt8) : Bool :=
  match Text.decode? name with
  | none => false
  | some cs =>
    cs.head? = some '.' ||
      ["node_modules", "target", "__pycache__"].any fun s => s.toList = cs

def isSkipped (p : Path) : Bool :=
  p.fileName?.any isSkippedName

def entryPath (directory name : List UInt8) : List UInt8 :=
  ((Path.mk directory).join ⟨name⟩).bytes

structure Start where
  spelled : List UInt8
  absolute : List UInt8
  deriving Repr

def absolutePath (s : Start) (path : List UInt8) : List UInt8 :=
  let path := strip dotSlash path
  let below :=
    if (Path.mk s.spelled).components = [.here] then path
    else strip [Path.slash] (strip (strip dotSlash s.spelled) path)
  ((Path.mk s.absolute).join ⟨below⟩).bytes

/-- Whether the walk passes over an entry. What no rule decides is passed over if it is hidden. -/
def passesOver (s : Start) (chain : Chain) (path name : List UInt8) (isDirectory : Bool) : Bool :=
  let verdict := chain.verdict (strip dotSlash path) (absolutePath s path) isDirectory
  verdict = .ignore || (verdict = .none && name.head? = some Path.dot) || isSkippedName name

def deeper : Option Nat → Option (Option Nat)
  | none => some none
  | some 0 => none
  | some (d + 1) => some (some d)

mutual

/-- The files at or below a node as routes of names, last name first. The node is `path` as
spelled, and `depth` levels below it are listed. -/
def filesIn (fs : FileSystem) (s : Start) (chain : Chain) (path : List UInt8) (names : List (List UInt8))
    (depth : Option Nat) : FileNode → List (List (List UInt8))
  | .file _ => [names]
  | .directory entries =>
    match deeper depth with
    | none => []
    | some rest =>
      filesOf fs s ⟨Level.of fs path (.directory entries) :: chain.below, chain.above⟩ path names
        rest entries

def filesOf (fs : FileSystem) (s : Start) (chain : Chain) (path : List UInt8) (names : List (List UInt8))
    (depth : Option Nat) : List (List UInt8 × FileNode) → List (List (List UInt8))
  | [] => []
  | (name, n) :: rest =>
    let here :=
      if passesOver s chain (entryPath path name) name n.isDirectory then []
      else filesIn fs s chain (entryPath path name) (name :: names) depth n
    here ++ filesOf fs s chain path names depth rest

end

def directory (t : Trail) : List UInt8 :=
  (Path.ofComponents (.root :: (t.dropLast.reverse.map (.name ·.1)))).bytes

def rulesAbove (fs : FileSystem) : Trail → List Level
  | [] => []
  | _ :: above => levels above
where
  levels : Trail → List Level
    | [] => []
    | (name, n) :: rest =>
      Level.of fs (directory ((name, n) :: rest)) n :: levels rest

/-- The name that stands for the standard input, which holds no files. -/
def isInputName (root : Path) : Bool :=
  root.components = [.name [0x2D]]

def relativePath (route : List (List UInt8)) : List UInt8 :=
  [Path.slash].intercalate route

def isBefore (a b : List (List UInt8)) : Bool :=
  (compare a b).isLE

def globMessage (pattern : String) (fault : Glob.Fault) : String :=
  "error parsing glob '" ++ pattern ++ "': " ++ fault.message

def list (fs : FileSystem) (root : Path) (pattern : String) (depth : Option Nat) :
    Except Failure (List Path) :=
  match fs.trail root with
  | .ok ((name, .directory entries) :: above) =>
    match Glob.parse false pattern.toList with
    | .error fault => .error (.invalidGlob pattern (globMessage pattern fault))
    | .ok glob =>
      if isInputName root then .ok [] else
      let trail : Trail := (name, .directory entries) :: above
      let start : Start := ⟨root.bytes, directory trail⟩
      let routes := (filesIn fs start ⟨[], rulesAbove fs trail⟩ root.bytes [] depth
        (.directory entries)).map List.reverse
      let selected := routes.filter fun r => glob.accepts (relativePath r)
      .ok ((selected.mergeSort isBefore).map fun r => ⟨entryPath root.bytes (relativePath r)⟩)
  | _ => .error (.discovery root.display "root is not a directory")

end Discovery

end ShellAtlas
