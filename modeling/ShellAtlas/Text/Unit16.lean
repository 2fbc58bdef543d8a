import ShellAtlas.Text.Measure
/-!
Columns in UTF-16 units beside columns in bytes. Both count along one line. A unit column inside
a surrogate pair stands for the boundary after the pair, a byte column inside a character for the
boundary before it, and a column past the end for the end.
-/
namespace ShellAtlas.Text

def units16 (c : Char) : Nat :=
  if c.toNat < 0x10000 then 1 else 2

def unitLength : List Char → Nat
  | [] => 0
  | c :: cs => units16 c + unitLength cs

def byteColumn : List Char → Nat → Nat
  | [], _ => 0
  | _ :: _, 0 => 0
  | c :: cs, column + 1 => c.utf8Size + byteColumn cs (column + 1 - units16 c)

def unitColumn (cs : List Char) (column : Nat) : Nat :=
  unitLength (cut column cs)

end ShellAtlas.Text
