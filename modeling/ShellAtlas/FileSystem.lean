import ShellAtlas.Path
/-!
A file system as a value: a tree of directories and regular files, and the directory that
relative paths start from. Paths are followed segment by segment, so every segment but the last
has to lead through a directory.
-/
namespace ShellAtlas

inductive FileNode where
  | file (content : List UInt8)
  | directory (entries : List (List UInt8 × FileNode))
  deriving Repr

namespace FileNode

def entries : FileNode → List (List UInt8 × FileNode)
  | .file _ => []
  | .directory es => es

def child? (n : FileNode) (name : List UInt8) : Option FileNode :=
  (n.entries.find? (·.1 = name)).map (·.2)

def isFile : FileNode → Bool
  | .file _ => true
  | .directory _ => false

def isDirectory : FileNode → Bool
  | .file _ => false
  | .directory _ => true

def setEntry (name : List UInt8) (n : FileNode) :
    List (List UInt8 × FileNode) → List (List UInt8 × FileNode)
  | [] => [(name, n)]
  | e :: es => if e.1 = name then (name, n) :: es else e :: setEntry name n es

def put : FileNode → List (List UInt8) → FileNode → FileNode
  | _, [], new => new
  | here, name :: rest, new =>
    .directory (setEntry name (put ((here.child? name).getD (.directory [])) rest new) here.entries)

end FileNode

inductive FileError where
  | notFound
  | notDirectory
  | isDirectory
  | zeroByte
  | notText
  deriving DecidableEq, Repr

def FileError.message : FileError → String
  | .notFound => "No such file or directory (os error 2)"
  | .notDirectory => "Not a directory (os error 20)"
  | .isDirectory => "Is a directory (os error 21)"
  | .zeroByte => "file name contained an unexpected NUL byte"
  | .notText => "stream did not contain valid UTF-8"

/-- The nodes passed on the way to a place, the place itself first, each with its name. The root
has the empty name. -/
abbrev Trail := List (List UInt8 × FileNode)

structure FileSystem where
  root : FileNode
  current : List (List UInt8)
  directorySize : List (List UInt8 × FileNode) → Nat

namespace FileSystem

def empty : FileSystem :=
  ⟨.directory [], [], fun _ => 0⟩

def size (fs : FileSystem) : FileNode → Nat
  | .file content => content.length
  | .directory entries => fs.directorySize entries

def rootTrail (fs : FileSystem) : Trail :=
  [([], fs.root)]

def follow (trail : Trail) (segment : List UInt8) : Except FileError Trail :=
  match trail with
  | [] => .error .notFound
  | (name, here) :: above =>
    match here with
    | .file _ => .error .notDirectory
    | .directory _ =>
      if segment = [] || segment = [Path.dot] then .ok trail
      else if segment = [Path.dot, Path.dot] then
        .ok (if above.isEmpty then [(name, here)] else above)
      else
        match here.child? segment with
        | some next => .ok ((segment, next) :: trail)
        | none => .error .notFound

def currentPath (fs : FileSystem) : Path :=
  .ofComponents (.root :: fs.current.map .name)

/-- The absolute path of the current directory, none if it is not there any more. -/
def currentDirectory? (fs : FileSystem) : Option Path :=
  match fs.current.foldlM follow fs.rootTrail with
  | .ok ((_, .directory _) :: _) => some fs.currentPath
  | _ => none

def trail (fs : FileSystem) (p : Path) : Except FileError Trail := do
  if p.bytes = [] then .error .notFound
  else if p.bytes.contains 0 then .error .zeroByte
  else
    let start ← if p.isAbsolute then .ok fs.rootTrail else fs.current.foldlM follow fs.rootTrail
    p.segments.foldlM follow start

def node (fs : FileSystem) (p : Path) : Except FileError FileNode := do
  match ← fs.trail p with
  | (_, n) :: _ => .ok n
  | [] => .error .notFound

def isFile (fs : FileSystem) (p : Path) : Bool :=
  match fs.node p with
  | .ok n => n.isFile
  | .error _ => false

def isDirectory (fs : FileSystem) (p : Path) : Bool :=
  match fs.node p with
  | .ok n => n.isDirectory
  | .error _ => false

def has (fs : FileSystem) (p : Path) : Bool :=
  match fs.node p with
  | .ok _ => true
  | .error _ => false

def readText (fs : FileSystem) (p : Path) : Except FileError (List Char) := do
  match ← fs.node p with
  | .directory _ => .error .isDirectory
  | .file content =>
    match Text.decode? content with
    | some cs => .ok cs
    | none => .error .notText

def route (fs : FileSystem) (p : Path) : List (List UInt8) :=
  ((fs.currentPath.join p).normalize.components).filterMap fun
    | .name n => some n
    | _ => none

def write (fs : FileSystem) (p : Path) (n : FileNode) : FileSystem :=
  { fs with root := fs.root.put (fs.route p) n }

def makeDirectory (fs : FileSystem) (p : Path) : FileSystem :=
  if fs.isDirectory p then fs else fs.write p (.directory [])

end FileSystem

end ShellAtlas
