import ShellAtlas.Index.Catalog
import ShellAtlas.Index.Document
import ShellAtlas.Settings
/-!
The index: documents under their URIs, with the settings that queries and analyses go by. A
document is built whole and then put in its place.
-/
namespace ShellAtlas

structure Atlas where
  settings : Settings
  documents : Catalog Document

namespace Atlas

def empty (settings : Settings) : Atlas :=
  ⟨settings, .empty⟩

def document? (a : Atlas) (uri : String) : Option Document :=
  a.documents.get? uri

def uris (a : Atlas) : List String :=
  a.documents.keys

def put (a : Atlas) (d : Document) : Atlas :=
  ⟨a.settings, a.documents.insert d.uri d⟩

def analyze (a : Atlas) (parse : String → Tree) (fs : FileSystem) (uri content : String) : Atlas :=
  a.put (.build parse fs a.settings.scriptExtension uri content)

def remove (a : Atlas) (uri : String) : Atlas :=
  ⟨a.settings, a.documents.erase uri⟩

def text (a : Atlas) : String :=
  "DocumentIndex \x7b config: " ++ a.settings.text ++ ", documents: " ++
    toString a.documents.size ++ " \x7d"

end Atlas

end ShellAtlas
