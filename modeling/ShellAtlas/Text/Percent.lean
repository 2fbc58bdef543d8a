/-!
Percent escapes: a percent sign and two hexadecimal digits stand for one byte.
-/
namespace ShellAtlas.Text

def percent : UInt8 := 0x25

def hexDigit (n : Nat) : Char :=
  if n < 10 then Char.ofNat (0x30 + n) else Char.ofNat (0x37 + n)

def hexValue? (b : UInt8) : Option UInt8 :=
  if 0x30 ≤ b && b ≤ 0x39 then some (b - 0x30)
  else if 0x41 ≤ b && b ≤ 0x46 then some (b - 0x37)
  else if 0x61 ≤ b && b ≤ 0x66 then some (b - 0x57)
  else none

def escaped (b : UInt8) : List Char :=
  ['%', hexDigit (b.toNat / 16), hexDigit (b.toNat % 16)]

/-- Escapes read back. A percent sign without two digits stands for itself. -/
def unescape : List UInt8 → List UInt8
  | [] => []
  | a :: b :: c :: rest =>
    if a = percent then
      match hexValue? b, hexValue? c with
      | some high, some low => (high * 16 + low) :: unescape rest
      | _, _ => a :: unescape (b :: c :: rest)
    else a :: unescape (b :: c :: rest)
  | a :: rest => a :: unescape rest

end ShellAtlas.Text
