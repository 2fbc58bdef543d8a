import ShellAtlas.Host.Address
import ShellAtlas.Host.Label
import ShellAtlas.Text.Measure
import ShellAtlas.Text.Percent
import ShellAtlas.Text.Utf8
/-!
Hosts of a URI: an address of eight pieces in brackets, an address of four bytes, or a name. A
name is unescaped, its characters are folded to plain ones, and its labels are checked.
-/
namespace ShellAtlas

inductive Host where
  | name (labels : List (List Char))
  | address4 (value : Nat)
  | address6 (pieces : List Nat)
  deriving DecidableEq, Repr

namespace Host

def givenLabels? (text : List Char) : Option (List (List Char)) := do
  let cs ← Text.decode? (Text.unescape (Text.bytes text))
  let plain := normalized (← cs.mapM folded?).flatten
  if plain = [] then none else some (plain.splitOn '.')

def ofName? (text : List Char) : Option Host := do
  let given ← givenLabels? text
  let labels ← given.mapM label?
  if labels.any isRightToLeft && !labels.all keepsDirection then none
  else if endsInNumber given then (address4? given).map .address4
  else some (.name labels)

def parse? (text : List Char) : Option Host :=
  match text with
  | '[' :: rest =>
    if rest.getLast? = some ']' then (address6? rest.dropLast).map .address6 else none
  | _ => ofName? text

def isLocal (h : Host) : Bool :=
  h = .name ["localhost".toList]

end Host

end ShellAtlas
