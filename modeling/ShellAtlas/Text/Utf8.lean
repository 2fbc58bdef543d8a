/-!
Reading bytes as text. A byte string falls into pieces: a well-formed UTF-8 sequence is a
character, and the longest beginning of one that goes no further is a broken piece. A strict
reading has no broken piece; a display shows each as the replacement character.
-/
namespace ShellAtlas.Text

def isTail (b : UInt8) : Bool :=
  0x80 ≤ b && b ≤ 0xBF

def second3 (a b : UInt8) : Bool :=
  if a = 0xE0 then 0xA0 ≤ b && b ≤ 0xBF
  else if a = 0xED then 0x80 ≤ b && b ≤ 0x9F
  else isTail b

def second4 (a b : UInt8) : Bool :=
  if a = 0xF0 then 0x90 ≤ b && b ≤ 0xBF
  else if a = 0xF4 then 0x80 ≤ b && b ≤ 0x8F
  else isTail b

def scalar2 (a b : UInt8) : Char :=
  Char.ofNat (a.toNat % 32 * 64 + b.toNat % 64)

def scalar3 (a b c : UInt8) : Char :=
  Char.ofNat ((a.toNat % 16 * 64 + b.toNat % 64) * 64 + c.toNat % 64)

def scalar4 (a b c d : UInt8) : Char :=
  Char.ofNat (((a.toNat % 8 * 64 + b.toNat % 64) * 64 + c.toNat % 64) * 64 + d.toNat % 64)

def pieces : List UInt8 → List (Option Char)
  | [] => []
  | a :: r =>
    if a < 0x80 then some (Char.ofNat a.toNat) :: pieces r
    else if 0xC2 ≤ a && a ≤ 0xDF then
      match r with
      | [] => [none]
      | b :: s => if isTail b then some (scalar2 a b) :: pieces s else none :: pieces (b :: s)
    else if 0xE0 ≤ a && a ≤ 0xEF then
      match r with
      | [] => [none]
      | b :: s =>
        if second3 a b then
          match s with
          | [] => [none]
          | c :: t => if isTail c then some (scalar3 a b c) :: pieces t else none :: pieces (c :: t)
        else none :: pieces (b :: s)
    else if 0xF0 ≤ a && a ≤ 0xF4 then
      match r with
      | [] => [none]
      | b :: s =>
        if second4 a b then
          match s with
          | [] => [none]
          | c :: t =>
            if isTail c then
              match t with
              | [] => [none]
              | d :: u =>
                if isTail d then some (scalar4 a b c d) :: pieces u else none :: pieces (d :: u)
            else none :: pieces (c :: t)
        else none :: pieces (b :: s)
    else none :: pieces r

def decode? (bs : List UInt8) : Option (List Char) :=
  (pieces bs).mapM id

def display (bs : List UInt8) : List Char :=
  (pieces bs).map fun c => c.getD '�'

end ShellAtlas.Text
