/-!
JSON tokens. The reader of tokens goes through a text once, character by character, and knows in
which token it stands. Blanks separate tokens and mean nothing else.
-/
namespace ShellAtlas.Json

inductive Token where
  | openBrace
  | closeBrace
  | openBracket
  | closeBracket
  | colon
  | comma
  | null
  | bool (b : Bool)
  | number (digits : List Char)
  | string (text : Option String)
  deriving DecidableEq, Repr

inductive Piece where
  | char (c : Char)
  | unit (n : Nat)
  deriving DecidableEq, Repr

/-- The text of a string's pieces: a high and a low surrogate unit side by side are one
character, and either alone is none. -/
def assemble : List Piece → Option (List Char)
  | [] => some []
  | .char c :: rest => (assemble rest).map (c :: ·)
  | .unit n :: rest =>
    if 0xD800 ≤ n && n < 0xDC00 then
      match rest with
      | .unit m :: more =>
        if 0xDC00 ≤ m && m < 0xE000 then
          (assemble more).map (Char.ofNat (0x10000 + (n - 0xD800) * 0x400 + (m - 0xDC00)) :: ·)
        else none
      | _ => none
    else if 0xDC00 ≤ n && n < 0xE000 then none
    else (assemble rest).map (Char.ofNat n :: ·)

def isSpace (c : Char) : Bool :=
  c = ' ' || c = '\t' || c = '\n' || c = '\r'

def isAtomic (c : Char) : Bool :=
  c.isAlphanum || c = '-' || c = '+' || c = '.'

def hexValue? (c : Char) : Option Nat :=
  if c.isDigit then some (c.toNat - 0x30)
  else if 'a' ≤ c && c ≤ 'f' then some (c.toNat - 0x57)
  else if 'A' ≤ c && c ≤ 'F' then some (c.toNat - 0x37)
  else none

def escaped? (c : Char) : Option Char :=
  if c = '"' then some '"'
  else if c = '\\' then some '\\'
  else if c = '/' then some '/'
  else if c = 'b' then some (Char.ofNat 8)
  else if c = 'f' then some (Char.ofNat 12)
  else if c = 'n' then some '\n'
  else if c = 'r' then some '\r'
  else if c = 't' then some '\t'
  else none

def isExponent : List Char → Bool
  | '+' :: ds => ds ≠ [] && ds.all Char.isDigit
  | '-' :: ds => ds ≠ [] && ds.all Char.isDigit
  | ds => ds ≠ [] && ds.all Char.isDigit

def isFraction (cs : List Char) : Bool :=
  match cs with
  | [] => true
  | c :: rest =>
    if c = '.' then
      rest.takeWhile Char.isDigit ≠ [] &&
        match rest.dropWhile Char.isDigit with
        | [] => true
        | e :: more => (e = 'e' || e = 'E') && isExponent more
    else (c = 'e' || c = 'E') && isExponent rest

def isNumber (cs : List Char) : Bool :=
  let digits := match cs with
    | '-' :: rest => rest
    | _ => cs
  match digits with
  | '0' :: rest => isFraction rest
  | _ => digits.takeWhile Char.isDigit ≠ [] && isFraction (digits.dropWhile Char.isDigit)

def atom? (cs : List Char) : Option Token :=
  if cs = ['n', 'u', 'l', 'l'] then some .null
  else if cs = ['t', 'r', 'u', 'e'] then some (.bool true)
  else if cs = ['f', 'a', 'l', 's', 'e'] then some (.bool false)
  else if isNumber cs then some (.number cs)
  else none

def mark? (c : Char) : Option Token :=
  if c = '\x7b' then some .openBrace
  else if c = '\x7d' then some .closeBrace
  else if c = '[' then some .openBracket
  else if c = ']' then some .closeBracket
  else if c = ':' then some .colon
  else if c = ',' then some .comma
  else none

/-- Where the reader stands. What a token has collected so far stands last first. -/
inductive Mode where
  | between
  | atom (run : List Char)
  | inside (done : List Piece)
  | escape (done : List Piece)
  | unit (done : List Piece) (digits value : Nat)
  deriving DecidableEq, Repr

def step (mode : Mode) (c : Char) : Option (Mode × List Token) :=
  match mode with
  | .between => start c []
  | .atom run =>
    if isAtomic c then some (.atom (c :: run), [])
    else (atom? run.reverse).bind fun t => start c [t]
  | .inside done =>
    if c = '"' then some (.between, [.string ((assemble done.reverse).map String.ofList)])
    else if c = '\\' then some (.escape done, [])
    else if c.toNat < 0x20 then none
    else some (.inside (.char c :: done), [])
  | .escape done =>
    if c = 'u' then some (.unit done 4 0, [])
    else (escaped? c).map fun e => (.inside (.char e :: done), [])
  | .unit done digits value =>
    (hexValue? c).map fun h =>
      if digits = 1 then (.inside (.unit (value * 16 + h) :: done), [])
      else (.unit done (digits - 1) (value * 16 + h), [])
where
  start (c : Char) (ended : List Token) : Option (Mode × List Token) :=
    if isSpace c then some (.between, ended)
    else if c = '"' then some (.inside [], ended)
    else if isAtomic c then some (.atom [c], ended)
    else (mark? c).map fun t => (.between, ended ++ [t])

def tokensFrom : Mode → List Char → Option (List Token)
  | .between, [] => some []
  | .atom run, [] => (atom? run.reverse).map fun t => [t]
  | _, [] => none
  | mode, c :: cs =>
    (step mode c).bind fun (next, ended) => (tokensFrom next cs).map (ended ++ ·)

def tokens? (cs : List Char) : Option (List Token) :=
  tokensFrom .between cs

end ShellAtlas.Json
