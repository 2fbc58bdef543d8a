import ShellAtlas.Path
/-!
Glob patterns and what they match. A pattern is matched against the bytes of a whole relative
path. Stars and question marks stop at slashes; only the recursive forms cross them.
-/
namespace ShellAtlas

inductive Glob where
  | empty
  | char (c : Char)
  | any
  | star
  /-- Directories before the rest of the path, or none. -/
  | leading
  /-- A slash and everything behind it. -/
  | trailing
  /-- A slash, or directories between two slashes. -/
  | between
  | everything
  /-- One byte of a set, or one outside it. Either may be a slash. -/
  | oneOf (negated : Bool) (ranges : List (Char × Char))
  | seq (first second : Glob)
  | alt (left right : Glob)
  | group (body : Glob)
  deriving DecidableEq, Repr

namespace Glob

def without? : List UInt8 → List UInt8 → Option (List UInt8)
  | [], bs => some bs
  | _ :: _, [] => none
  | a :: as, b :: bs => if a = b then without? as bs else none

/-- The bytes that a range of a set admits. The ends count by their encodings, whose inner bytes
stand alone beside the range from the last byte of the one to the first of the other. -/
def rangeHas (r : Char × Char) (b : UInt8) : Bool :=
  let low := String.utf8EncodeChar r.1
  let high := String.utf8EncodeChar r.2
  if r.1 = r.2 then low.contains b
  else low.dropLast.contains b || high.tail.contains b ||
    (low.getLast?.any (· ≤ b) && high.head?.any (b ≤ ·))

def moved (fits : UInt8 → Bool) (path : List UInt8) (marks : List Bool) : List Bool :=
  false :: path.zipWith (fun b m => m && fits b) marks

def spreadFrom (fits : UInt8 → Bool) (reached : Bool) : List UInt8 → List Bool → List Bool
  | b :: bs, m :: ms => (m || reached) :: spreadFrom fits ((m || reached) && fits b) bs ms
  | [], m :: _ => [m || reached]
  | _, [] => []

def spread (fits : UInt8 → Bool) (path : List UInt8) (marks : List Bool) : List Bool :=
  spreadFrom fits false path marks

def isPlainByte (b : UInt8) : Bool :=
  b ≠ Path.slash

def isSlashByte (b : UInt8) : Bool :=
  b = Path.slash

def either (left right : List Bool) : List Bool :=
  left.zipWith or right

def movedToSlash (path : List UInt8) (marks : List Bool) : List Bool :=
  moved isSlashByte path (spread (fun _ => true) path marks)

def advance (path : List UInt8) : Glob → List Bool → List Bool
  | .empty, ms => ms
  | .char c, ms => (String.utf8EncodeChar c).foldl (fun ms b => moved (· = b) path ms) ms
  | .any, ms => moved isPlainByte path ms
  | .star, ms => spread isPlainByte path ms
  | .leading, ms => either ms (movedToSlash path ms)
  | .trailing, ms => spread (fun _ => true) path (moved isSlashByte path ms)
  | .between, ms =>
    let behind := moved isSlashByte path ms
    either behind (movedToSlash path behind)
  | .everything, ms => spread (fun _ => true) path ms
  | .oneOf negated ranges, ms => moved (fun b => ranges.any (rangeHas · b) ≠ negated) path ms
  | .seq a b, ms => advance path b (advance path a ms)
  | .alt a b, ms => either (advance path a ms) (advance path b ms)
  | .group g, ms => advance path g ms

def accepts (g : Glob) (path : List UInt8) : Bool :=
  (advance path g (true :: path.map fun _ => false)).getLast? = some true

def isBlank : Glob → Bool
  | .empty => true
  | .seq a b => a.isBlank && b.isBlank
  | _ => false

def ofPieces : List Glob → Glob
  | [] => .empty
  | [g] => g
  | g :: rest => .seq g (ofPieces rest)

def choice (options : List Glob) : Glob :=
  match options.filter fun g => !g.isBlank with
  | [] => .empty
  | g :: rest => .group (rest.foldl .alt g)

def width : Glob → Nat
  | .empty => 0
  | .char c => c.utf8Size
  | .trailing => 2
  | .seq a b => a.width + b.width
  | _ => 1

def isAlternation : Glob → Bool
  | .alt _ _ => true
  | _ => false

def rowLevel (g : Glob) : Nat :=
  if 2 ≤ g.width then 1 else 0

def rangeSize (r : Char × Char) : Nat :=
  if r.1 = r.2 then r.1.utf8Size else r.1.utf8Size + r.2.utf8Size - 1

def inner : Glob → Nat
  | .empty => 0
  | .char _ => 0
  | .any => 1
  | .star => 2
  | .leading => 4
  | .trailing => 1
  | .between => 4
  | .everything => 1
  | .oneOf _ ranges => if 2 ≤ (ranges.map rangeSize).sum then 2 else 1
  | .seq a b => max a.inner b.inner
  | .alt a b => max (a.inner + a.rowLevel) (b.inner + b.rowLevel)
  | .group g => 1 + (if g.isAlternation then 1 else 0) + g.inner + g.rowLevel

def nesting (g : Glob) : Nat :=
  g.inner + 1

end Glob

end ShellAtlas
