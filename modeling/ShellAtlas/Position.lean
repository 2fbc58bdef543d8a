import ShellAtlas.Text.Line
import ShellAtlas.Text.Unit16
/-!
Positions, ranges and locations. Lines count from zero and columns count bytes. All three are
ordered field by field, a URI by its characters.
-/
namespace ShellAtlas

structure Position where
  line : Nat
  character : Nat
  deriving DecidableEq, Repr

namespace Position

instance : Ord Position where
  compare a b := (compare a.line b.line).then (compare a.character b.character)

def ofOffset : List Char → Nat → Position
  | [], n => ⟨0, n⟩
  | _ :: _, 0 => ⟨0, 0⟩
  | c :: cs, n + 1 =>
    if c.utf8Size ≤ n + 1 then
      let p := ofOffset cs (n + 1 - c.utf8Size)
      if c = '\n' then ⟨p.line + 1, p.character⟩
      else if p.line = 0 then ⟨0, c.utf8Size + p.character⟩
      else p
    else ⟨0, n + 1⟩

def ofUnits (line column : Nat) (text : List Char) : Position :=
  ⟨line, Text.byteColumn text column⟩

def toUnits (p : Position) (text : List Char) : Position :=
  ⟨p.line, Text.unitColumn text p.character⟩

end Position

structure Range where
  start : Position
  stop : Position
  deriving DecidableEq, Repr

namespace Range

instance : Ord Range where
  compare a b := (compare a.start b.start).then (compare a.stop b.stop)

def fileStart : Range :=
  ⟨⟨0, 0⟩, ⟨0, 0⟩⟩

def contains (r : Range) (p : Position) : Bool :=
  (compare r.start p).isLE && (compare p r.stop).isLE

end Range

structure Location where
  uri : String
  range : Range
  deriving DecidableEq, Repr

namespace Location

instance : Ord Location where
  compare a b := (compare a.uri b.uri).then (compare a.range b.range)

end Location

end ShellAtlas
