/-!
JSON values. A number keeps its digits as written. A string has no text when one of its escapes
is half of a surrogate pair: such a string is well formed and names nothing.
-/
namespace ShellAtlas

inductive Json where
  | null
  | bool (b : Bool)
  | number (digits : List Char)
  | string (text : Option String)
  | array (items : List Json)
  | object (members : List (Option String × Json))
  deriving Repr

namespace Json

def text (s : String) : Json :=
  .string (some s)

def nat (n : Nat) : Json :=
  .number (Nat.toDigits 10 n)

def record (members : List (String × Json)) : Json :=
  .object (members.map fun m => (some m.1, m.2))

end Json

end ShellAtlas
