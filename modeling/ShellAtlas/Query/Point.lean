import ShellAtlas.Index.Atlas
/-!
Questions about a place in a document: the word there, the comment block above a line, and the
place's column in other units.
-/
namespace ShellAtlas

def isIdentifierChar (c : Char) : Bool :=
  c.isAlphanum || c = '_'

/-- The longest run of identifier characters around a byte column, none if the byte there is no
identifier character. `run` is the run that ends before the text, last first. -/
def identifierRun? (run : List Char) : List Char → Nat → Option (List Char)
  | [], _ => none
  | c :: cs, 0 =>
    if isIdentifierChar c then some (run.reverse ++ c :: cs.takeWhile isIdentifierChar) else none
  | c :: cs, n + 1 =>
    if c.utf8Size ≤ n + 1 then
      identifierRun? (if isIdentifierChar c then c :: run else []) cs (n + 1 - c.utf8Size)
    else none

/-- The text of a comment line: what follows the mark and one blank after it. A `#!` on the first
line is no comment. -/
def commentText? (line : List Char) (number : Nat) : Option (List Char) :=
  match Text.trimStart line with
  | '#' :: body =>
    if number = 0 && body.head? = some '!' then none
    else
      match body with
      | ' ' :: rest => some (Text.trimEnd rest)
      | _ => some (Text.trimEnd body)
  | _ => none

namespace Document

def wordAt? (d : Document) (p : Position) : Option (List Char) :=
  let node := d.tree.nodeAt d.text p
  let text := Text.trim (node.text d.text)
  if !node.isLeaf || text.isEmpty then none
  else if !text.any Text.isBlank then some text
  else (d.line? p.line).bind fun line => identifierRun? [] line p.character

def commentsBefore (d : Document) : Nat → List (List Char)
  | 0 => []
  | n + 1 =>
    match (d.line? n).bind (commentText? · n) with
    | some text => text :: d.commentsBefore n
    | none => []

def commentsAbove? (d : Document) (line : Nat) : Option (List Char) :=
  match d.commentsBefore line with
  | [] => none
  | block => some (['\n'].intercalate block.reverse)

end Document

namespace Atlas

def wordAt? (a : Atlas) (uri : String) (p : Position) : Option String :=
  (a.document? uri).bind fun d => (d.wordAt? p).map String.ofList

def commentsAbove? (a : Atlas) (uri : String) (line : Nat) : Option String :=
  (a.document? uri).bind fun d => (d.commentsAbove? line).map String.ofList

def line? (a : Atlas) (uri : String) (i : Nat) : Option (List Char) :=
  (a.document? uri).bind (·.line? i)

def ofUnits (a : Atlas) (uri : String) (p : Position) : Position :=
  match a.line? uri p.line with
  | some text => .ofUnits p.line p.character text
  | none => p

def toUnits (a : Atlas) (uri : String) (p : Position) : Position :=
  match a.line? uri p.line with
  | some text => p.toUnits text
  | none => p

end Atlas

end ShellAtlas
