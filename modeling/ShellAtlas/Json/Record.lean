import ShellAtlas.Json.Reader
import ShellAtlas.Symbol
/-!
The index's values as JSON. A record is written as an object in the order of its fields, without
an absent container. It is read from an object with its fields in any order, others ignored and
none twice, or from an array of all its fields. An enumeration is its word, or an object with that
word as its only key and no value.
-/
namespace ShellAtlas

namespace Json

def fields? (names : List String) : Json → Option (List (Option Json))
  | .array items => if items.length = names.length then some (items.map some) else none
  | .object members =>
    if members.any (·.1.isNone) then none
    else names.mapM fun n =>
      match members.filter (·.1 = some n) with
      | [] => some none
      | [m] => some (some m.2)
      | _ => none
  | _ => none

def decimal (digits : List Char) : Nat :=
  digits.foldl (fun n c => n * 10 + (c.toNat - 0x30)) 0

def nat32? : Json → Option Nat
  | .number ds => if ds.all Char.isDigit && decimal ds < UInt32.size then some (decimal ds) else none
  | _ => none

def text? : Json → Option String
  | .string t => t
  | _ => none

def optionalText? : Option Json → Option (Option String)
  | none => some none
  | some .null => some none
  | some v => v.text?.map some

def word? : Json → Option String
  | .string t => t
  | .object [(k, .null)] => k
  | _ => none

def optional (key : String) : Option String → List (String × Json)
  | none => []
  | some s => [(key, .text s)]

end Json

open Json

namespace Position

def toJson (p : Position) : Json :=
  .record [("line", .nat p.line), ("character", .nat p.character)]

def ofJson? (v : Json) : Option Position :=
  match v.fields? ["line", "character"] with
  | some [some l, some c] => do some ⟨← l.nat32?, ← c.nat32?⟩
  | _ => none

end Position

namespace Range

def toJson (r : Range) : Json :=
  .record [("start", r.start.toJson), ("end", r.stop.toJson)]

def ofJson? (v : Json) : Option Range :=
  match v.fields? ["start", "end"] with
  | some [some a, some b] => do some ⟨← Position.ofJson? a, ← Position.ofJson? b⟩
  | _ => none

end Range

namespace Location

def toJson (l : Location) : Json :=
  .record [("uri", .text l.uri), ("range", l.range.toJson)]

def ofJson? (v : Json) : Option Location :=
  match v.fields? ["uri", "range"] with
  | some [some u, some r] => do some ⟨← u.text?, ← Range.ofJson? r⟩
  | _ => none

end Location

namespace SymbolKind

def toJson (k : SymbolKind) : Json :=
  .text k.name

def ofJson? (v : Json) : Option SymbolKind :=
  v.word?.bind fun w => ([.variable, .function] : List SymbolKind).find? fun k => k.name = w

end SymbolKind

namespace SymbolInformation

def toJson (s : SymbolInformation) : Json :=
  .record ([("name", .text s.name), ("kind", s.kind.toJson), ("location", s.location.toJson)] ++
    optional "container_name" s.containerName)

def ofJson? (v : Json) : Option SymbolInformation :=
  match v.fields? ["name", "kind", "location", "container_name"] with
  | some [some n, some k, some l, c] => do
    some ⟨← n.text?, ← SymbolKind.ofJson? k, ← Location.ofJson? l, ← optionalText? c⟩
  | _ => none

end SymbolInformation

namespace DeclaredSymbol

def toJson (s : DeclaredSymbol) : Json :=
  .record ([("name", .text s.name), ("kind", s.kind.toJson), ("range", s.range.toJson),
    ("uri", .text s.uri)] ++ optional "container_name" s.containerName)

def ofJson? (v : Json) : Option DeclaredSymbol :=
  match v.fields? ["name", "kind", "range", "uri", "container_name"] with
  | some [some n, some k, some r, some u, c] => do
    some ⟨← n.text?, ← SymbolKind.ofJson? k, ← Range.ofJson? r, ← u.text?, ← optionalText? c⟩
  | _ => none

end DeclaredSymbol

namespace Severity

def toJson (s : Severity) : Json :=
  .text s.name

def ofJson? (v : Json) : Option Severity :=
  v.word?.bind fun w => if w = name error then some error else none

end Severity

namespace Diagnostic

def toJson (d : Diagnostic) : Json :=
  .record [("range", d.range.toJson), ("severity", d.severity.toJson), ("message", .text d.message)]

def ofJson? (v : Json) : Option Diagnostic :=
  match v.fields? ["range", "severity", "message"] with
  | some [some r, some s, some m] => do
    some ⟨← Range.ofJson? r, ← Severity.ofJson? s, ← m.text?⟩
  | _ => none

end Diagnostic

namespace Target

def status : Target → String
  | .resolved _ => "resolved"
  | .unresolved _ => "unresolved"

def toJson (t : Target) : Json :=
  .record [("status", .text t.status), ("uri", .text t.uri)]

def ofStatus? (status uri : String) : Option Target :=
  if status = "resolved" then some (.resolved uri)
  else if status = "unresolved" then some (.unresolved uri)
  else none

def statusWord? (v status : Json) : Option String :=
  match v with
  | .array _ => status.text?
  | _ => status.word?

def ofJson? (v : Json) : Option Target :=
  match v.fields? ["status", "uri"] with
  | some [some s, some u] => do ofStatus? (← statusWord? v s) (← u.text?)
  | _ => none

end Target

end ShellAtlas
