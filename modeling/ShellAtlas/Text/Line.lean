/-!
Lines of a text. A line ends before a newline, and one carriage return before that end is not
part of it. The text after the last newline is a line too, so the empty text has one empty line.
-/
namespace ShellAtlas.Text

def rawLines (cs : List Char) : List (List Char) :=
  cs.splitOn '\n'

def dropReturn (line : List Char) : List Char :=
  if line.getLast? = some '\r' then line.dropLast else line

def lineAt? (cs : List Char) (i : Nat) : Option (List Char) :=
  (rawLines cs)[i]?.map dropReturn

end ShellAtlas.Text
