import ShellAtlas.Json.Value
/-!
JSON values as text, in a compact and an indented form. Strings escape the quote, the backslash
and the controls, and keep every other character. A string without text is written as an unpaired
surrogate escape.
-/
namespace ShellAtlas.Json

def hexDigit (n : Nat) : Char :=
  if n < 10 then Char.ofNat (0x30 + n) else Char.ofNat (0x57 + n)

def writeChar (c : Char) : List Char :=
  if c = '"' then ['\\', '"']
  else if c = '\\' then ['\\', '\\']
  else if c.toNat = 8 then ['\\', 'b']
  else if c.toNat = 12 then ['\\', 'f']
  else if c = '\n' then ['\\', 'n']
  else if c = '\r' then ['\\', 'r']
  else if c = '\t' then ['\\', 't']
  else if c.toNat < 0x20 then
    ['\\', 'u', '0', '0', hexDigit (c.toNat / 16), hexDigit (c.toNat % 16)]
  else [c]

def writeString : Option String → List Char
  | some s => '"' :: s.toList.flatMap writeChar ++ ['"']
  | none => "\"\\ud800\"".toList

mutual

def compact : Json → List Char
  | .null => ['n', 'u', 'l', 'l']
  | .bool true => ['t', 'r', 'u', 'e']
  | .bool false => ['f', 'a', 'l', 's', 'e']
  | .number ds => ds
  | .string t => writeString t
  | .array items => '[' :: compactItems items ++ [']']
  | .object members => '\x7b' :: compactMembers members ++ ['\x7d']

def compactItems : List Json → List Char
  | [] => []
  | [v] => compact v
  | v :: w :: rest => compact v ++ ',' :: compactItems (w :: rest)

def compactMembers : List (Option String × Json) → List Char
  | [] => []
  | [(k, v)] => writeString k ++ ':' :: compact v
  | (k, v) :: m :: rest => writeString k ++ ':' :: compact v ++ ',' :: compactMembers (m :: rest)

end

def newline (depth : Nat) : List Char :=
  '\n' :: List.replicate (2 * depth) ' '

mutual

def pretty (depth : Nat) : Json → List Char
  | .array [] => ['[', ']']
  | .array items => '[' :: prettyItems (depth + 1) items ++ newline depth ++ [']']
  | .object [] => ['\x7b', '\x7d']
  | .object members => '\x7b' :: prettyMembers (depth + 1) members ++ newline depth ++ ['\x7d']
  | .null => ['n', 'u', 'l', 'l']
  | .bool true => ['t', 'r', 'u', 'e']
  | .bool false => ['f', 'a', 'l', 's', 'e']
  | .number ds => ds
  | .string t => writeString t

def prettyItems (depth : Nat) : List Json → List Char
  | [] => []
  | [v] => newline depth ++ pretty depth v
  | v :: w :: rest => newline depth ++ pretty depth v ++ ',' :: prettyItems depth (w :: rest)

def prettyMembers (depth : Nat) : List (Option String × Json) → List Char
  | [] => []
  | [(k, v)] => newline depth ++ writeString k ++ ':' :: ' ' :: pretty depth v
  | (k, v) :: m :: rest =>
    newline depth ++ writeString k ++ ':' :: ' ' :: pretty depth v ++
      ',' :: prettyMembers depth (m :: rest)

end

def render (v : Json) : String :=
  String.ofList (compact v)

def renderPretty (v : Json) : String :=
  String.ofList (pretty 0 v)

end ShellAtlas.Json
