import ShellAtlas.Glob.Pattern
/-!
Glob patterns from text. `**` is recursive where it is a whole component, and two stars anywhere
else. Braces choose between alternatives and may nest; brackets hold sets; a backslash takes the
next character as it is.
-/
namespace ShellAtlas.Glob

inductive Fault where
  | unclosedSet
  | invalidRange (low high : Char)
  | unopenedGroup
  | unclosedGroup
  | danglingEscape
  deriving DecidableEq, Repr

def Fault.message : Fault → String
  | .unclosedSet => "unclosed character class; missing ']'"
  | .invalidRange low high =>
    "invalid range; '" ++ String.ofList [low] ++ "' > '" ++ String.ofList [high] ++ "'"
  | .unopenedGroup =>
    "unopened alternate group; missing '\x7b' (maybe escape '\x7d' with '[\x7d]'?)"
  | .unclosedGroup =>
    "unclosed alternate group; missing '\x7d' (maybe escape '\x7b' with '[\x7b]'?)"
  | .danglingEscape => "dangling '\\'"

structure Group where
  before : List Glob
  finished : List Glob
  deriving Repr

/-- A text read so far: the pieces of the alternative at hand, last first, the open groups, the
character just read, and whether an opening bracket is an ordinary character from here on. -/
structure Progress where
  pieces : List Glob
  groups : List Group
  previous : Option Char
  plainBrackets : Bool
  deriving Repr

/-- A set read up to its closing bracket, with the text behind it; none if it is not closed. A
bracket at the front, and a hyphen at the front or the end, is an ordinary character. -/
def readSet (first inRange : Bool) (ranges : List (Char × Char)) :
    List Char → Except Fault (Option (List (Char × Char) × List Char))
  | [] => .ok none
  | c :: cs =>
    if c = ']' && !first then
      .ok (some ((if inRange then ('-', '-') :: ranges else ranges).reverse, cs))
    else if c = '-' && !first && !inRange then readSet false true ranges cs
    else if inRange then
      match ranges with
      | (low, _) :: rest =>
        if c < low then .error (.invalidRange low c) else readSet false false ((low, c) :: rest) cs
      | [] => readSet false false [(c, c)] cs
    else readSet false false ((c, c) :: ranges) cs

namespace Progress

def push (s : Progress) (g : Glob) (last : Char) : Progress :=
  ⟨g :: s.pieces, s.groups, some last, s.plainBrackets⟩

def recursive (s : Progress) (form : Glob) (last : Char) : Progress :=
  match s.pieces with
  | .leading :: rest => ⟨.leading :: rest, s.groups, some last, s.plainBrackets⟩
  | .trailing :: rest => ⟨.trailing :: rest, s.groups, some last, s.plainBrackets⟩
  | _ :: rest => ⟨form :: rest, s.groups, some last, s.plainBrackets⟩
  | [] => ⟨[form], s.groups, some last, s.plainBrackets⟩

def doubleStar (s : Progress) (rest : List Char) : Progress × List Char :=
  let plain := ((s.push .star '*').push .star '*', rest)
  if s.pieces.isEmpty then
    match rest with
    | [] => (s.push .leading '*', [])
    | c :: more => if c = '/' then (s.push .leading '/', more) else plain
  else if s.previous = some '/' ||
      (!s.groups.isEmpty && (s.previous = some ',' || s.previous = some '\x7b')) then
    match rest with
    | [] => (s.recursive .trailing '*', [])
    | c :: more =>
      if !s.groups.isEmpty && (c = ',' || c = '\x7d') then (s.recursive .trailing '*', rest)
      else if c = '/' then (s.recursive .between '/', more)
      else plain
  else plain

def openGroup (s : Progress) : Progress :=
  ⟨[], ⟨s.pieces, []⟩ :: s.groups, some '\x7b', s.plainBrackets⟩

def comma (s : Progress) : Progress :=
  match s.groups with
  | [] => s.push (.char ',') ','
  | g :: rest =>
    ⟨[], ⟨g.before, ofPieces s.pieces.reverse :: g.finished⟩ :: rest, some ',', s.plainBrackets⟩

def closeGroup (s : Progress) : Except Fault Progress :=
  match s.groups with
  | [] => .error .unopenedGroup
  | g :: rest =>
    .ok ⟨choice ((ofPieces s.pieces.reverse :: g.finished).reverse) :: g.before, rest, some '\x7d',
      s.plainBrackets⟩

end Progress

/-- An opening bracket with the text behind it. A lenient reader takes the bracket of a set that
is not closed, and every later one, as an ordinary character. -/
def bracket (lenient : Bool) (s : Progress) (rest : List Char) :
    Except Fault (Progress × List Char) :=
  let negated := rest.head? = some '!' || rest.head? = some '^'
  match readSet true false [] (if negated then rest.tail else rest) with
  | .error f => .error f
  | .ok (some (ranges, more)) => .ok (s.push (.oneOf negated ranges) ']', more)
  | .ok none =>
    if lenient then .ok (⟨.char '[' :: s.pieces, s.groups, some '[', true⟩, rest)
    else .error .unclosedSet

/-- A text read from a point on. Every round takes at least one character, so `fuel` characters
are enough. -/
def readFrom (lenient : Bool) : Nat → Progress → List Char → Except Fault Progress
  | _, s, [] => .ok s
  | 0, s, _ => .ok s
  | fuel + 1, s, c :: cs =>
    if c = '?' then readFrom lenient fuel (s.push .any c) cs
    else if c = '*' then
      match cs with
      | '*' :: rest =>
        let next := s.doubleStar rest
        readFrom lenient fuel next.1 next.2
      | _ => readFrom lenient fuel (s.push .star c) cs
    else if c = '[' && !s.plainBrackets then
      match bracket lenient s cs with
      | .error f => .error f
      | .ok (next, rest) => readFrom lenient fuel next rest
    else if c = '\x7b' then readFrom lenient fuel s.openGroup cs
    else if c = '\x7d' then
      match s.closeGroup with
      | .error f => .error f
      | .ok next => readFrom lenient fuel next cs
    else if c = ',' then readFrom lenient fuel s.comma cs
    else if c = '\\' then
      match cs with
      | [] => .error .danglingEscape
      | e :: rest => readFrom lenient fuel (s.push (.char e) e) rest
    else readFrom lenient fuel (s.push (.char c) c) cs

def parse (lenient : Bool) (cs : List Char) : Except Fault Glob :=
  match readFrom lenient cs.length ⟨[], [], none, false⟩ cs with
  | .error f => .error f
  | .ok s =>
    if !s.groups.isEmpty then .error .unclosedGroup
    else if s.pieces = [.leading] then .ok .everything
    else .ok (ofPieces s.pieces.reverse)

end ShellAtlas.Glob
