import ShellAtlas.FileSystem
import ShellAtlas.Json.Record
import ShellAtlas.Tree.Node
/-!
What a run sees of the world besides its arguments: files, the current directory, and the syntax
trees of texts. It is read from a JSON object with the members `current`, a path; `block`, the size
of a directory; `files`, a list of pairs of a path and a content; and `trees`, a list of pairs of a
text and rows. A content is a text, a list of bytes, or null for a directory. A row is one node with its depth, kind, flags,
field, start and end.
-/
namespace ShellAtlas

structure Snapshot where
  files : FileSystem
  trees : List (String × Tree)

namespace Snapshot

def items? : Json → Option (List Json)
  | .array items => some items
  | _ => none

def path? (v : Json) : Option Path :=
  v.text?.map fun s => ⟨Text.bytes s.toList⟩

def byte? (v : Json) : Option UInt8 :=
  (v.nat32?.filter (· < UInt8.size)).map UInt8.ofNat

def node? : Json → Option FileNode
  | .null => some (.directory [])
  | .array items => (items.mapM byte?).map .file
  | v => v.text?.map fun s => .file (Text.bytes s.toList)

def addFile? (fs : FileSystem) : Json → Option FileSystem
  | .array [path, content] => do
    let p ← path? path
    match ← node? content with
    | .directory _ => some (fs.makeDirectory p)
    | n => some (fs.write p n)
  | _ => none

/-- One node of a tree with its depth. The flags are letters: named, error, missing, hidden. -/
def row? : Json → Option (Nat × Label)
  | .array [depth, kind, flags, field, start, stop] => do
    let flags := (← flags.text?).toList
    some (← depth.nat32?, ⟨← kind.text?, flags.contains 'n', flags.contains 'e',
      flags.contains 'm', flags.contains 'h', ← field.text?, ← start.nat32?, ← stop.nat32?⟩)
  | _ => none

def tree? : Json → Option (String × Tree)
  | .array [text, rows] => do
    some (← text.text?, ← Tree.ofRows? (← (← items? rows).mapM row?))
  | _ => none

def start (current : Path) (block : Nat) : FileSystem :=
  ⟨(FileSystem.empty.makeDirectory current).root, FileSystem.empty.route current, fun _ => block⟩

def ofJson? (v : Json) : Option Snapshot :=
  match v.fields? ["current", "block", "files", "trees"] with
  | some [some current, some block, some files, some trees] => do
    let fs ← (← items? files).foldlM addFile? (start (← path? current) (← block.nat32?))
    some ⟨fs, ← (← items? trees).mapM tree?⟩
  | _ => none

def parse (s : Snapshot) (text : String) : Tree :=
  ((s.trees.find? (·.1 = text)).map (·.2)).getD
    (.node ⟨"program", true, false, false, false, "", 0, 0⟩ [])

end Snapshot

end ShellAtlas
