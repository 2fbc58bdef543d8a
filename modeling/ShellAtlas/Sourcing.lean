import ShellAtlas.FileSystem
import ShellAtlas.FileUri
import ShellAtlas.Symbol
/-!
Where a sourced path leads. The path is read from the directory of the file that names it, by its
text alone; then the file system is asked whether that is a file, and if not, and the name has no
extension, whether it is one with the script extension.
-/
namespace ShellAtlas

def Path.uri (p : Path) : String :=
  (FileUri.ofPath? p).getD p.display

def Path.ofText (s : String) : Path :=
  ⟨Text.bytes s.toList⟩

namespace Sourcing

/-- The path of a declaring document, and whether its targets are named by URI. A document whose
URI names no path is itself a path. -/
def declaring (uri : String) : Path × Bool :=
  match FileUri.toPath? uri with
  | some p => (p, true)
  | none => (.ofText uri, false)

def literal (raw uri : String) : Path :=
  (((declaring uri).1.parent?.getD ⟨[]⟩).join (.ofText raw)).normalize

def render (uri : String) (p : Path) : String :=
  if (declaring uri).2 then p.uri else p.display

def resolve (fs : FileSystem) (extension raw uri : String) : Target :=
  let path := literal raw uri
  let longer := path.withExtension (Text.bytes extension.toList)
  if fs.isFile path then .resolved (render uri path)
  else if path.extension?.isNone && extension ≠ "" && fs.isFile longer then
    .resolved (render uri longer)
  else .unresolved (render uri path)

end Sourcing

end ShellAtlas
