import ShellAtlas.Text.Utf8
/-!
Paths as byte strings. Slashes divide a path into segments, and its components are what the
segments say: empty ones and `.` say nothing, except that a leading `.` of a relative path is
kept. Normalizing folds `..` into the name before it by the text alone, without asking a file
system.
-/
namespace ShellAtlas

structure Path where
  bytes : List UInt8
  deriving DecidableEq, Repr

namespace Path

def slash : UInt8 := 0x2F
def dot : UInt8 := 0x2E

inductive Component where
  | root
  | here
  | up
  | name (bytes : List UInt8)
  deriving DecidableEq, Repr

def Component.bytes : Component → List UInt8
  | .root => []
  | .here => [dot]
  | .up => [dot, dot]
  | .name n => n

def Component.ofSegment? (s : List UInt8) : Option Component :=
  if s = [] then none
  else if s = [dot] then none
  else if s = [dot, dot] then some .up
  else some (.name s)

def isAbsolute (p : Path) : Bool :=
  p.bytes.head? = some slash

def segments (p : Path) : List (List UInt8) :=
  p.bytes.splitOn slash

def components (p : Path) : List Component :=
  if p.isAbsolute then .root :: p.segments.filterMap Component.ofSegment?
  else if p.segments.head? = some [dot] then .here :: p.segments.filterMap Component.ofSegment?
  else p.segments.filterMap Component.ofSegment?

def ofComponents (cs : List Component) : Path :=
  if cs = [.root] then ⟨[slash]⟩ else ⟨[slash].intercalate (cs.map Component.bytes)⟩

/-- One component met after those already folded, which stand last first. -/
def foldComponent (done : List Component) : Component → List Component
  | .here => done
  | .up =>
    match done with
    | .name _ :: rest => rest
    | .root :: rest => .root :: rest
    | _ => .up :: done
  | c => c :: done

def foldComponents (cs : List Component) : List Component :=
  (cs.foldl foldComponent []).reverse

def normalize (p : Path) : Path :=
  ofComponents (foldComponents p.components)

def join (base p : Path) : Path :=
  if p.isAbsolute then p
  else if base.bytes = [] then p
  else if base.bytes.getLast? = some slash then ⟨base.bytes ++ p.bytes⟩
  else ⟨base.bytes ++ slash :: p.bytes⟩

def parent? (p : Path) : Option Path :=
  match p.components.getLast? with
  | none => none
  | some .root => none
  | some _ => some (ofComponents p.components.dropLast)

def fileName? (p : Path) : Option (List UInt8) :=
  match p.components.getLast? with
  | some (.name n) => some n
  | _ => none

def stemOf (n : List UInt8) : List UInt8 :=
  match n.reverse.dropWhile (· ≠ dot) with
  | _ :: before :: rest => (before :: rest).reverse
  | _ => n

def extensionOf? (n : List UInt8) : Option (List UInt8) :=
  match n.reverse.dropWhile (· ≠ dot) with
  | _ :: _ :: _ => some (n.reverse.takeWhile (· ≠ dot)).reverse
  | _ => none

def extension? (p : Path) : Option (List UInt8) :=
  p.fileName?.bind extensionOf?

/-- The path with another extension on its name. A path that ends in no name stays. -/
def withExtension (p : Path) (extension : List UInt8) : Path :=
  match p.fileName? with
  | none => p
  | some n =>
    let last := if extension = [] then stemOf n else stemOf n ++ dot :: extension
    ofComponents (p.components.dropLast ++ [.name last])

def display (p : Path) : String :=
  String.ofList (Text.display p.bytes)

end Path

end ShellAtlas
