/-!
Labels in Punycode: the ASCII characters of a text, a hyphen, and the others as insertions in
the order of their code points. Each insertion is one number, the distance from the last one,
in digits whose weights adapt to the size of the numbers before.
-/
namespace ShellAtlas.Host.Punycode

def digit? (c : Char) : Option Nat :=
  if c.isLower then some (c.toNat - 0x61)
  else if c.isDigit then some (c.toNat - 0x30 + 26)
  else none

def threshold (place bias : Nat) : Nat :=
  if place ≤ bias + 1 then 1 else if bias + 26 ≤ place then 26 else place - bias

def shrink (delta place : Nat) : Nat × Nat :=
  if 455 < delta then shrink (delta / 35) (place + 36) else (delta, place)
termination_by delta
decreasing_by omega

def adapt (delta count : Nat) (first : Bool) : Nat :=
  let scaled := if first then delta / 700 else delta / 2
  let (rest, place) := shrink (scaled + scaled / count) 0
  place + 36 * rest / (rest + 38)

/-- Insertions read so far: the text, the last code point, where to go on, and the number being
read with the weight and the place of its next digit. -/
structure Progress where
  text : List Char
  code : Nat
  index : Nat
  bias : Nat
  start : Nat
  weight : Nat
  place : Nat
  deriving Repr

def Progress.begin (basic : List Char) : Progress :=
  ⟨basic, 0x80, 0, 72, 0, 1, 36⟩

def char? (code : Nat) : Option Char :=
  if code < 0xD800 || (0xDFFF < code && code < 0x110000) then some (Char.ofNat code) else none

def Progress.step? (p : Progress) (c : Char) : Option Progress := do
  let d ← digit? c
  let index := p.index + d * p.weight
  let t := threshold p.place p.bias
  if d < t then
    let count := p.text.length + 1
    let code := p.code + index / count
    let spot := index % count
    some ⟨p.text.take spot ++ (← char? code) :: p.text.drop spot, code, spot + 1,
      adapt (index - p.start) count (p.start = 0), spot + 1, 1, 36⟩
  else some ⟨p.text, p.code, index, p.bias, p.start, p.weight * (36 - t), p.place + 36⟩

def parts (cs : List Char) : List Char × List Char :=
  let digits := (cs.reverse.takeWhile (· ≠ '-')).reverse
  let basic := cs.take (cs.length - digits.length - 1)
  if basic = [] then ([], cs) else (basic, digits)

def decode? (cs : List Char) : Option (List Char) := do
  let (basic, digits) := parts cs
  let p ← digits.foldlM Progress.step? (.begin basic)
  if p.weight = 1 && p.place = 36 then some p.text else none

end ShellAtlas.Host.Punycode
