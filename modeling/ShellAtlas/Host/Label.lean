import ShellAtlas.Host.Normal
import ShellAtlas.Host.Punycode
import ShellAtlas.Host.Table.Direction
import ShellAtlas.Host.Table.Folding
import ShellAtlas.Host.Table.Joining
import ShellAtlas.Host.Table.Refused
import ShellAtlas.Host.Table.Spelling
/-!
Labels of a host name in any script: a label does not start with a mark, invisible joiners stand
only where the script needs them, and in a name that is partly written from right to left every
label keeps one direction. A label with characters beyond ASCII has a limited length.
-/
namespace ShellAtlas.Host

def isWithin (ranges : List (Nat × Nat)) (c : Char) : Bool :=
  ranges.any fun r => r.1 ≤ c.toNat && c.toNat ≤ r.2

def Run.image? (r : Run) (c : Nat) : Option Nat :=
  if r.first ≤ c && c ≤ r.last && (c - r.first) % r.step = 0 then
    some (r.target + r.gain * (c - r.first))
  else none

def folded? (c : Char) : Option (List Char) :=
  if isWithin refusedRanges c then none
  else if isWithin ignoredRanges c then some []
  else
    let one := (foldRuns.findSome? (·.image? c.toNat)).or
      (folds.findSome? fun rows => (rows.find? (·.1 = c.toNat)).map (·.2))
    let several := spellings.findSome? fun rows => (rows.find? (·.1 = c.toNat)).map (·.2)
    some (((one.map fun n => [n]).or several).getD [c.toNat] |>.map Char.ofNat)

def isPlain (c : Char) : Bool :=
  folded? c = some [c] && !isWithin unspelledRanges c

def isAscii (c : Char) : Bool :=
  c.toNat < 0x80

def lengthLimit : Nat := 1000

def codedLimit : Nat := 2000

def isMark (c : Char) : Bool :=
  isWithin markRanges c

def isForbidden (c : Char) : Bool :=
  c.toNat ≤ 0x20 || c.toNat = 0x7F ||
    ['#', '%', '/', ':', '<', '>', '?', '@', '[', '\\', ']', '^', '|'].contains c

def joining (c : Char) : Joining :=
  ((joiningRanges.find? fun r => r.1 ≤ c.toNat && c.toNat ≤ r.2.1).map (·.2.2)).getD .none

def direction (c : Char) : Direction :=
  ((directionRanges.find? fun r => r.1 ≤ c.toNat && c.toNat ≤ r.2.1).map (·.2.2)).getD .leftToRight

def joinsBy (sides : List Joining) (cs : List Char) : Bool :=
  (cs.dropWhile (joining · = .through)).head?.any fun c => sides.contains (joining c)

/-- Whether a joiner may stand behind a text, last character first, and before another: behind a
mark that silences a vowel, or, if it separates, between letters that would join. -/
def allowsJoiner (separates : Bool) (before after : List Char) : Bool :=
  before.head?.any (combiningClass · = 9) ||
    (separates && joinsBy [.left, .both] before && joinsBy [.right, .both] after)

def joinersFit (before : List Char) : List Char → Bool
  | [] => true
  | c :: cs =>
    (if c.toNat = 0x200C then allowsJoiner true before cs
      else if c.toNat = 0x200D then allowsJoiner false before cs
      else true) && joinersFit (c :: before) cs

def isRightToLeft (cs : List Char) : Bool :=
  cs.any fun c => [Direction.rightToLeft, .arabicNumber].contains (direction c)

def keepsDirection (cs : List Char) : Bool :=
  let ways := cs.map direction
  let last? := (ways.reverse.dropWhile (· = .mark)).head?
  match ways.head? with
  | none => true
  | some .leftToRight =>
    ways.all ([.leftToRight, .europeanNumber, .neutral, .mark].contains ·) &&
      last?.any ([Direction.leftToRight, .europeanNumber].contains ·)
  | some .rightToLeft =>
    ways.all (· ≠ .leftToRight) && !(ways.contains .europeanNumber && ways.contains .arabicNumber) &&
      last?.any ([Direction.rightToLeft, .europeanNumber, .arabicNumber].contains ·)
  | some _ => false

def isLabel (cs : List Char) : Bool :=
  (cs.all isAscii || cs.length ≤ lengthLimit) && !cs.any isForbidden && !cs.head?.any isMark &&
    joinersFit [] cs

/-- The text of a label, which is taken from Punycode after its mark. The code is ASCII alone, and
its text holds something beyond ASCII and is in the form that a host name is brought to. -/
def label? (cs : List Char) : Option (List Char) :=
  match cs with
  | 'x' :: 'n' :: '-' :: '-' :: rest => do
    if !rest.all isAscii || codedLimit < rest.length then none
    else
      let text ← Punycode.decode? rest
      if !text.all isAscii && text.all isPlain && normalized text = text && isLabel text then
        some text
      else none
  | _ => if isLabel cs then some cs else none

end ShellAtlas.Host
