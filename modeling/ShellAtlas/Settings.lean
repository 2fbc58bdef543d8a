import ShellAtlas.Text.Quoted
/-!
The settings of an index.
-/
namespace ShellAtlas

structure Settings where
  globPattern : String
  importsOnly : Bool
  maxFileSize : Nat
  scriptExtension : String
  deriving DecidableEq, Repr

namespace Settings

def standard : Settings :=
  ⟨"**/*.\x7bsh,inc,bash,command\x7d", false, 1048576, "sh"⟩

def text (s : Settings) : String :=
  "Config \x7b glob_pattern: " ++ Text.quoted s.globPattern ++
    ", completion_based_on_imports: " ++ (if s.importsOnly then "true" else "false") ++
    ", max_file_size: " ++ toString s.maxFileSize ++
    ", script_extension: " ++ Text.quoted s.scriptExtension ++ " \x7d"

end Settings

end ShellAtlas
