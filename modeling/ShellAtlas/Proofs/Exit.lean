import ShellAtlas.Proofs.Scan
/-!
How a run ends. Of all that a run meets, only the file that its request names decides the exit code:
it is missing, it is there and cannot be read, or it is read. What the scan makes of other files, and
whether it finds the root at all, does not count. The file is looked for as it is spelled, looked up
under the URI of its normal form and read at its normal form, and all three mean the same node.
-/
namespace ShellAtlas

namespace Path

end Path

namespace FileSystem
open ShellAtlas.Path (IsName)

def absolute (fs : FileSystem) (p : Path) : Path :=
  (fs.currentPath.join p).normalize

section Spelled
variable {fs : FileSystem} (current : ∀ n ∈ fs.current, IsName n) (clean : ∀ n ∈ fs.current, 0 ∉ n)
  {p : Path}
include current clean

end Spelled

end FileSystem

namespace Command

def Invocation.scanned (i : Invocation) (parse : String → Tree) (fs : FileSystem) : Atlas :=
  (Atlas.ofRoot i.settings parse fs (Discovery.list fs · · i.maxDepth) i.root ⟨"", ""⟩).1

section Run
variable {fs : FileSystem} (proper : fs.Proper) (clean : ∀ n ∈ fs.current, 0 ∉ n) (parse : String → Tree)
  (i : Invocation) {file : Path}

include proper clean

variable (entered : fs.currentDirectory? = some fs.currentPath)
include entered

end Run

end Command

end ShellAtlas
