import ShellAtlas.Host.Table.Composition
import ShellAtlas.Host.Table.Mark
/-!
The composed normal form of a text: every character is taken apart, marks are put in the order
of their classes, and what can be composed is.
-/
namespace ShellAtlas.Host

def combiningClass (c : Char) : Nat :=
  ((combiningRanges.find? fun r => r.1 ≤ c.toNat && c.toNat ≤ r.2.1).map (·.2.2)).getD 0

def hangulParts? (c : Nat) : Option (Nat × Nat) :=
  if 0xAC00 ≤ c && c ≤ 0xD7A3 then
    let index := c - 0xAC00
    if index % 28 = 0 then some (0x1100 + index / 588, 0x1161 + index % 588 / 28)
    else some (c - index % 28, 0x11A7 + index % 28)
  else none

def hangul? (a b : Nat) : Option Nat :=
  if 0x1100 ≤ a && a ≤ 0x1112 && 0x1161 ≤ b && b ≤ 0x1175 then
    some (0xAC00 + (a - 0x1100) * 588 + (b - 0x1161) * 28)
  else if 0xAC00 ≤ a && a ≤ 0xD7A3 && (a - 0xAC00) % 28 = 0 && 0x11A8 ≤ b && b ≤ 0x11C2 then
    some (a + (b - 0x11A7))
  else none

def parts? (c : Char) : Option (Char × Char) :=
  let listed := (compositions.findSome? (·.find? (·.1 = c.toNat))).map (·.2)
  ((hangulParts? c.toNat).or listed).map fun p => (Char.ofNat p.1, Char.ofNat p.2)

def composed? (a b : Char) : Option Char :=
  let listed := (compositions.findSome? (·.find? (·.2 = (a.toNat, b.toNat)))).map (·.1)
  ((hangul? a.toNat b.toNat).or listed).map Char.ofNat

def decomposed : Nat → Char → List Char
  | 0, c => [c]
  | depth + 1, c =>
    match parts? c with
    | some (a, b) => decomposed depth a ++ [b]
    | none => [c]

def putMark (c : Char) : List Char → List Char
  | [] => [c]
  | d :: ds =>
    if combiningClass d ≠ 0 && combiningClass d < combiningClass c then d :: putMark c ds
    else c :: d :: ds

/-- A character with the marks kept behind it, last first, composed with what follows. A mark
behind one of its own class or a higher one does not reach the character. -/
def composeFrom (base : Char) (kept : List Char) : List Char → List Char
  | [] => base :: kept.reverse
  | c :: cs =>
    let reaches := kept.head?.all fun m => combiningClass m < combiningClass c
    match if reaches then composed? base c else none with
    | some whole => composeFrom whole kept cs
    | none =>
      if combiningClass c = 0 then base :: kept.reverse ++ composeFrom c [] cs
      else composeFrom base (c :: kept) cs

def composed : List Char → List Char
  | [] => []
  | c :: cs => if combiningClass c = 0 then composeFrom c [] cs else c :: composed cs

def normalized (cs : List Char) : List Char :=
  composed ((cs.flatMap (decomposed 4)).foldr putMark [])

end ShellAtlas.Host
