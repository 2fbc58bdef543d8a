/-!
Numeric host addresses. An address of four bytes is written as up to four numbers with dots
between them, of which the last fills all bytes that are left. An address of eight pieces is
written in hexadecimal with colons between them; two colons in a row stand for one or more zero
pieces, and the last two pieces may be written as four bytes with dots.
-/
namespace ShellAtlas.Host

def digit? (base : Nat) (c : Char) : Option Nat :=
  let value :=
    if c.isDigit then some (c.toNat - 0x30)
    else if 'a' ≤ c && c ≤ 'f' then some (c.toNat - 0x57)
    else if 'A' ≤ c && c ≤ 'F' then some (c.toNat - 0x37)
    else none
  value.filter (· < base)

def numeral? (base : Nat) (cs : List Char) : Option Nat :=
  cs.foldlM (fun n c => (digit? base c).map (n * base + ·)) 0

def number? : List Char → Option Nat
  | [] => none
  | '0' :: 'x' :: digits => numeral? 16 digits
  | '0' :: 'X' :: digits => numeral? 16 digits
  | '0' :: c :: digits => numeral? 8 (c :: digits)
  | digits => numeral? 10 digits

def partsOf (labels : List (List Char)) : List (List Char) :=
  if 1 < labels.length && labels.getLast? = some [] then labels.dropLast else labels

/-- Whether the last part of a name is meant as a number: such a name is an address or nothing. -/
def endsInNumber (labels : List (List Char)) : Bool :=
  (partsOf labels).getLast?.any fun last =>
    (last ≠ [] && last.all Char.isDigit) || (number? last).isSome

def address4? (labels : List (List Char)) : Option Nat := do
  let numbers ← (partsOf labels).mapM number?
  match numbers.reverse with
  | [] => none
  | last :: before =>
    let room := Nat.pow 256 (4 - before.length)
    if before.length < 4 && before.all (· < 256) && last < room then
      some (before.reverse.foldl (fun n b => n * 256 + b) 0 * room + last)
    else none

def piece? (cs : List Char) : Option Nat :=
  if cs ≠ [] && cs.length ≤ 4 then numeral? 16 cs else none

def byte? (cs : List Char) : Option Nat :=
  if cs = [] || (cs.head? = some '0' && cs ≠ ['0']) then none
  else (numeral? 10 cs).filter (· < 256)

def dotted? (cs : List Char) : Option (List Nat) := do
  match ← (cs.splitOn '.').mapM byte? with
  | [a, b, c, d] => some [a * 256 + b, c * 256 + d]
  | _ => none

def plainPieces? (cs : List Char) : Option (List Nat) :=
  if cs = [] then some [] else (cs.splitOn ':').mapM piece?

def pieces? (cs : List Char) : Option (List Nat) :=
  match (cs.splitOn ':').reverse with
  | [] => plainPieces? cs
  | last :: before =>
    if last.contains '.' then do
      some ((← before.reverse.mapM piece?) ++ (← dotted? last))
    else plainPieces? cs

def aroundColons? : List Char → Option (List Char × List Char)
  | ':' :: ':' :: rest => some ([], rest)
  | c :: rest => (aroundColons? rest).map fun (before, after) => (c :: before, after)
  | [] => none

def address6? (cs : List Char) : Option (List Nat) :=
  match aroundColons? cs with
  | some (before, after) => do
    let front ← plainPieces? before
    let back ← pieces? after
    if front.length + back.length ≤ 7 then
      some (front ++ List.replicate (8 - front.length - back.length) 0 ++ back)
    else none
  | none => (pieces? cs).filter (·.length = 8)

end ShellAtlas.Host
