/-!
Text measured in bytes. A text is a list of characters; its bytes are their UTF-8 encodings, and
every offset and column below counts those bytes. An offset inside a character is no boundary.
-/
namespace ShellAtlas.Text

def bytes (cs : List Char) : List UInt8 :=
  cs.flatMap String.utf8EncodeChar

def byteLength : List Char → Nat
  | [] => 0
  | c :: cs => c.utf8Size + byteLength cs

/-- The longest beginning of whole characters that takes at most `limit` bytes. -/
def cut (limit : Nat) : List Char → List Char
  | [] => []
  | c :: cs => if c.utf8Size ≤ limit then c :: cut (limit - c.utf8Size) cs else []

def ellipsis (limit : Nat) (cs : List Char) : List Char :=
  if byteLength cs ≤ limit then cs else cut limit cs ++ ['.', '.', '.']

def dropBytes? : Nat → List Char → Option (List Char)
  | 0, cs => some cs
  | _ + 1, [] => none
  | n + 1, c :: cs => if c.utf8Size ≤ n + 1 then dropBytes? (n + 1 - c.utf8Size) cs else none

def takeBytes? : Nat → List Char → Option (List Char)
  | 0, _ => some []
  | _ + 1, [] => none
  | n + 1, c :: cs =>
    if c.utf8Size ≤ n + 1 then (takeBytes? (n + 1 - c.utf8Size) cs).map (c :: ·) else none

def slice? (start stop : Nat) (cs : List Char) : Option (List Char) :=
  if start ≤ stop then (dropBytes? start cs).bind (takeBytes? (stop - start)) else none

theorem byteLengthBytes (cs : List Char) : byteLength cs = (bytes cs).length := by
  induction cs with
  | nil => rfl
  | cons c cs ih => simp [byteLength, bytes, ih, String.length_utf8EncodeChar]

theorem byteLengthAppend (a b : List Char) : byteLength (a ++ b) = byteLength a + byteLength b := by
  induction a with
  | nil => simp [byteLength]
  | cons c a ih => simp [byteLength, ih, Nat.add_assoc]

end ShellAtlas.Text
