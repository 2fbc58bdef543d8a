import ShellAtlas.Proofs.Column
import ShellAtlas.Proofs.Utf8
import ShellAtlas.Proofs.Word
/-!
The identifier around a byte column, told by bytes. Every identifier byte is a character of its own and no
byte of a longer character is one, so the longest run of such bytes starts and ends between characters, and
the characters between its ends are the answer at each of its columns.
-/
namespace ShellAtlas

namespace Text

def IsBoundary (cs : List Char) (offset : Nat) : Prop :=
  ∃ before after, cs = before ++ after ∧ byteLength before = offset

theorem boundaryOnce {before after front back : List Char} (same : before ++ after = front ++ back)
    (length : byteLength before = byteLength front) : before = front ∧ after = back := by
  have first : before = front := by
    have cutBefore := cutFront before after
    rw [same, length, cutFront] at cutBefore
    exact cutBefore.symm
  exact ⟨first, List.append_cancel_left (first ▸ same)⟩

theorem dropChar (c : Char) (n : Nat) (cs : List Char) :
    dropBytes? (c.utf8Size + n) (c :: cs) = dropBytes? n cs := by
  have size := c.utf8Size_pos
  obtain ⟨m, whole⟩ : ∃ m, c.utf8Size + n = m + 1 := ⟨c.utf8Size + n - 1, by omega⟩
  have rest : m + 1 - c.utf8Size = n := by omega
  rw [whole, dropBytes?, if_pos (by omega), rest]

theorem takeChar (c : Char) (n : Nat) (cs : List Char) :
    takeBytes? (c.utf8Size + n) (c :: cs) = (takeBytes? n cs).map (c :: ·) := by
  have size := c.utf8Size_pos
  obtain ⟨m, whole⟩ : ∃ m, c.utf8Size + n = m + 1 := ⟨c.utf8Size + n - 1, by omega⟩
  have rest : m + 1 - c.utf8Size = n := by omega
  rw [whole, takeBytes?, if_pos (by omega), rest]

theorem dropFront (before rest : List Char) : dropBytes? (byteLength before) (before ++ rest) = some rest := by
  induction before with
  | nil => cases rest <;> rfl
  | cons c before ih => rw [byteLength, List.cons_append, dropChar, ih]

theorem takeFront (piece rest : List Char) : takeBytes? (byteLength piece) (piece ++ rest) = some piece := by
  induction piece with
  | nil => cases rest <;> rfl
  | cons c piece ih => rw [byteLength, List.cons_append, takeChar, ih, Option.map_some]

theorem slicePiece (before piece after : List Char) :
    slice? (byteLength before) (byteLength before + byteLength piece) (before ++ piece ++ after) = some piece := by
  rw [slice?, if_pos (Nat.le_add_right _ _), List.append_assoc, dropFront, Option.bind_some,
    Nat.add_sub_cancel_left, takeFront]

theorem bytesPiece (before piece after : List Char) :
    ((bytes (before ++ piece ++ after)).drop (byteLength before)).take (byteLength piece) = bytes piece := by
  simp only [bytes, List.flatMap_append, List.append_assoc]
  rw [byteLengthBytes, byteLengthBytes, bytes, bytes, List.drop_left, List.take_left]

theorem byteOf {cs : List Char} {i : Nat} {b : UInt8} (found : (bytes cs)[i]? = some b) :
    ∃ before c after, cs = before ++ c :: after ∧ byteLength before ≤ i ∧
      (String.utf8EncodeChar c)[i - byteLength before]? = some b := by
  induction cs generalizing i with
  | nil => simp [bytes] at found
  | cons c cs ih =>
    rw [bytes, List.flatMap_cons, List.getElem?_append] at found
    split at found
    · exact ⟨[], c, cs, rfl, Nat.zero_le i, found⟩
    · rename_i past
      rw [String.length_utf8EncodeChar] at past found
      obtain ⟨before, d, after, whole, start, byte⟩ := ih found
      refine ⟨c :: before, d, after, by rw [whole, List.cons_append], ?_, ?_⟩
      · simp only [byteLength]
        omega
      · rw [byteLength, ← Nat.sub_sub]
        exact byte

theorem leadByte (before : List Char) (c : Char) (after : List Char) :
    (bytes (before ++ c :: after))[byteLength before]? = (String.utf8EncodeChar c ++ bytes after)[0]? := by
  rw [bytes, List.flatMap_append, byteLengthBytes, bytes, List.getElem?_append_right (Nat.le_refl _), Nat.sub_self,
    List.flatMap_cons]
  rfl

theorem encodedLow {c : Char} (low : c.toNat < 128) : String.utf8EncodeChar c = [UInt8.ofNat c.toNat] := by
  have small : c.val.toNat ≤ 127 := Nat.le_of_lt_succ low
  simp only [String.utf8EncodeChar, if_pos small]
  rfl

theorem sizeLow {c : Char} (low : c.toNat < 128) : c.utf8Size = 1 := by
  rw [← String.length_utf8EncodeChar, encodedLow low, List.length_singleton]

end Text

def isIdentifierByte (b : UInt8) : Bool :=
  (0x30 ≤ b && b ≤ 0x39) || (0x41 ≤ b && b ≤ 0x5A) || (0x61 ≤ b && b ≤ 0x7A) || b = 0x5F

theorem codeLow {n : Nat} (code : IdentifierCode n) : n < 128 := by
  unfold IdentifierCode at code
  omega

theorem identifierByteIff {b : UInt8} : isIdentifierByte b = true ↔ IdentifierCode b.toNat := by
  simp only [isIdentifierByte, IdentifierCode, Bool.or_eq_true, Bool.and_eq_true, decide_eq_true_eq,
    UInt8.le_iff_toNat_le, ← UInt8.toNat_inj, UInt8.reduceToNat]
  omega

theorem identifierSize {c : Char} (identifier : isIdentifierChar c = true) : c.utf8Size = 1 :=
  Text.sizeLow (codeLow (identifierCharIff.mp identifier))

theorem identifiersLength {run : List Char} (inside : ∀ c ∈ run, isIdentifierChar c = true) :
    Text.byteLength run = run.length := by
  induction run with
  | nil => rfl
  | cons c run ih =>
    rw [List.forall_mem_cons] at inside
    rw [Text.byteLength, ih inside.2, identifierSize inside.1, List.length_cons, Nat.add_comm]

def IdentifierAt (line : List Char) (i : Nat) : Prop :=
  ∃ b, (Text.bytes line)[i]? = some b ∧ isIdentifierByte b = true

theorem identifierAtIff {line : List Char} {i : Nat} : IdentifierAt line i ↔
    ∃ before c after, line = before ++ c :: after ∧ Text.byteLength before = i ∧ isIdentifierChar c = true := by
  constructor
  · rintro ⟨b, found, identifier⟩
    have code := identifierByteIff.mp identifier
    obtain ⟨before, c, after, whole, start, byte⟩ := Text.byteOf found
    rcases Text.encodedByte (List.mem_of_getElem? byte) with ⟨rfl, low⟩ | high
    · rw [UInt8.toNat_ofNat', Nat.mod_eq_of_lt (by omega)] at code
      rw [Text.encodedLow low] at byte
      obtain ⟨only, _⟩ := List.getElem?_eq_some_iff.mp byte
      rw [List.length_singleton] at only
      exact ⟨before, c, after, whole, by omega, identifierCharIff.mpr code⟩
    · exact absurd (codeLow code) (by omega)
  · rintro ⟨before, c, after, rfl, rfl, identifier⟩
    have code := identifierCharIff.mp identifier
    have low := codeLow code
    refine ⟨UInt8.ofNat c.toNat, ?_, ?_⟩
    · rw [Text.leadByte, Text.encodedLow low]
      rfl
    · rw [identifierByteIff, UInt8.toNat_ofNat', Nat.mod_eq_of_lt (by omega)]
      exact code

def runBehind (run front : List Char) : List Char :=
  front.foldl (fun run c => if isIdentifierChar c then c :: run else []) run

theorem runPassed (run front rest : List Char) (n : Nat) :
    identifierRun? run (front ++ rest) (Text.byteLength front + n) =
      identifierRun? (runBehind run front) rest n := by
  induction front generalizing run with
  | nil => rw [Text.byteLength, Nat.zero_add]; rfl
  | cons c front ih =>
    have size := c.utf8Size_pos
    obtain ⟨m, whole⟩ : ∃ m, Text.byteLength (c :: front) + n = m + 1 :=
      ⟨c.utf8Size + Text.byteLength front + n - 1, by rw [Text.byteLength]; omega⟩
    have further : m + 1 - c.utf8Size = Text.byteLength front + n := by
      rw [Text.byteLength] at whole
      omega
    rw [whole, List.cons_append, identifierRun?, if_pos (by rw [Text.byteLength] at whole; omega), further, ih]
    rfl

theorem runBehindClosed {before : List Char} (closed : ∀ c ∈ before.getLast?, isIdentifierChar c = false) :
    runBehind [] before = [] := by
  rcases List.eq_nil_or_concat before with rfl | ⟨front, c, rfl⟩
  · rfl
  · rw [List.concat_eq_append] at closed ⊢
    rw [runBehind, List.foldl_append, List.foldl_cons, List.foldl_nil, closed c (by simp)]
    rfl

theorem runBehindInside {front : List Char} (inside : ∀ c ∈ front, isIdentifierChar c = true)
    (run : List Char) : runBehind run front = front.reverse ++ run := by
  induction front generalizing run with
  | nil => rfl
  | cons c front ih =>
    rw [List.forall_mem_cons] at inside
    have step : runBehind run (c :: front) = runBehind (c :: run) front := by
      rw [runBehind, List.foldl_cons, if_pos inside.1]
      rfl
    rw [step, ih inside.2, List.reverse_cons, List.append_assoc]
    rfl

theorem runColumn {run : List Char} (inside : ∀ c ∈ run, isIdentifierChar c = true) {k : Nat}
    (within : k < Text.byteLength run) : ∃ front c back, run = front ++ c :: back ∧ Text.byteLength front = k := by
  have short : k < run.length := identifiersLength inside ▸ within
  refine ⟨run.take k, run[k], run.drop (k + 1), ?_, ?_⟩
  · rw [List.getElem_cons_drop, List.take_append_drop]
  · rw [identifiersLength fun c member => inside c (List.mem_of_mem_take member), List.length_take,
      Nat.min_eq_left (Nat.le_of_lt short)]

theorem runIff {line run : List Char} {column : Nat} :
    identifierRun? [] line column = some run ↔ RunAround line column run := by
  refine ⟨runRead, ?_⟩
  rintro ⟨before, after, rfl, first, last, longest⟩
  obtain ⟨k, rfl⟩ := Nat.exists_eq_add_of_le first
  obtain ⟨front, c, back, rfl, rfl⟩ := runColumn longest.inside (Nat.add_lt_add_iff_left.mp last)
  have inside := longest.inside
  simp only [List.forall_mem_append, List.forall_mem_cons] at inside
  have stopped : after.takeWhile isIdentifierChar = [] := by
    cases after with
    | nil => rfl
    | cons d after =>
      rw [List.takeWhile_cons, longest.last d rfl]
      rfl
  have whole : before ++ (front ++ c :: back) ++ after = before ++ (front ++ c :: (back ++ after)) := by simp
  rw [whole, runPassed, ← Nat.add_zero (Text.byteLength front), runPassed, runBehindClosed longest.first,
    runBehindInside inside.1, identifierRun?, if_pos inside.2.1, List.takeWhile_append_of_pos inside.2.2,
    stopped, List.append_nil, List.append_nil, List.reverse_reverse]

theorem runFound {line : List Char} {column : Nat} :
    (∃ run, identifierRun? [] line column = some run) ↔ IdentifierAt line column := by
  rw [identifierAtIff]
  constructor
  · rintro ⟨run, read⟩
    obtain ⟨before, after, rfl, first, last, longest⟩ := runIff.mp read
    obtain ⟨k, rfl⟩ := Nat.exists_eq_add_of_le first
    obtain ⟨front, c, back, rfl, rfl⟩ := runColumn longest.inside (Nat.add_lt_add_iff_left.mp last)
    exact ⟨before ++ front, c, back ++ after, by simp, Text.byteLengthAppend .., longest.inside c (by simp)⟩
  · rintro ⟨before, c, after, rfl, rfl, identifier⟩
    rw [← Nat.add_zero (Text.byteLength before), runPassed, identifierRun?, if_pos identifier]
    exact ⟨_, rfl⟩

structure LongestBytes (line : List Char) (start stop : Nat) : Prop where
  inside : ∀ i, start ≤ i → i < stop → IdentifierAt line i
  first : ∀ i, i + 1 = start → ¬ IdentifierAt line i
  last : ¬ IdentifierAt line stop

theorem longestOnce {line : List Char} {column start stop left right : Nat} (one : LongestBytes line start stop)
    (other : LongestBytes line left right) (before : start ≤ column ∧ column < stop)
    (around : left ≤ column ∧ column < right) : left = start ∧ right = stop := by
  constructor
  · rcases Nat.lt_trichotomy left start with less | same | more
    · exact absurd (other.inside (start - 1) (by omega) (by omega)) (one.first _ (by omega))
    · exact same
    · exact absurd (one.inside (left - 1) (by omega) (by omega)) (other.first _ (by omega))
  · rcases Nat.lt_trichotomy right stop with less | same | more
    · exact absurd (one.inside right (by omega) less) other.last
    · exact same
    · exact absurd (other.inside stop (by omega) more) one.last

theorem runBytes {before run after : List Char} (longest : LongestRun before run after) :
    LongestBytes (before ++ run ++ after) (Text.byteLength before)
      (Text.byteLength before + Text.byteLength run) := by
  constructor
  · intro i first last
    obtain ⟨k, rfl⟩ := Nat.exists_eq_add_of_le first
    exact runFound.mp ⟨run, runIff.mpr ⟨before, after, rfl, first, last, longest⟩⟩
  · intro i next here
    obtain ⟨front, c, back, whole, length, identifier⟩ := identifierAtIff.mp here
    have parts : before ++ (run ++ after) = (front ++ [c]) ++ back := by
      rw [← List.append_assoc, whole, List.append_assoc]
      rfl
    have ends : Text.byteLength before = Text.byteLength (front ++ [c]) := by
      rw [Text.byteLengthAppend, Text.byteLength, Text.byteLength, identifierSize identifier]
      omega
    have closed := longest.first c (by simp [(Text.boundaryOnce parts ends).1])
    rw [identifier] at closed
    contradiction
  · intro here
    obtain ⟨front, c, back, whole, length, identifier⟩ := identifierAtIff.mp here
    rw [← Text.byteLengthAppend] at length
    have ended := longest.last c (by simp [(Text.boundaryOnce whole length.symm).2])
    rw [identifier] at ended
    contradiction

/- An identifier is found exactly at a column with an identifier byte. It is what stands between the ends of
the one longest stretch of such bytes around the column, both ends are between characters, and it is found at
every column of the stretch. -/
theorem identifierLongest (line : List Char) (column : Nat) :
    ((∃ word, identifierRun? [] line column = some word) ↔ IdentifierAt line column) ∧
    ∀ word, identifierRun? [] line column = some word →
      ∃ start stop, (start ≤ column ∧ column < stop) ∧ LongestBytes line start stop ∧
        Text.IsBoundary line start ∧ Text.IsBoundary line stop ∧ Text.slice? start stop line = some word ∧
        Text.bytes word = ((Text.bytes line).drop start).take (stop - start) ∧
        (∀ other, start ≤ other → other < stop → identifierRun? [] line other = some word) ∧
        ∀ left right, left ≤ column ∧ column < right → LongestBytes line left right →
          left = start ∧ right = stop := by
  refine ⟨runFound, fun word read => ?_⟩
  obtain ⟨before, after, rfl, first, last, longest⟩ := runIff.mp read
  have stretch := runBytes longest
  refine ⟨_, _, ⟨first, last⟩, stretch, ⟨before, word ++ after, by simp, rfl⟩,
    ⟨before ++ word, after, rfl, Text.byteLengthAppend ..⟩, Text.slicePiece .., ?_, ?_, ?_⟩
  · rw [Nat.add_sub_cancel_left, Text.bytesPiece]
  · exact fun other begun ended => runIff.mpr ⟨before, after, rfl, begun, ended, longest⟩
  · exact fun left right around also => longestOnce stretch also ⟨first, last⟩ around

theorem accentedLongest :
    identifierRun? [] "é_x1é2".toList 3 = some "_x1".toList ∧
    ∃ start stop, (start ≤ 3 ∧ 3 < stop) ∧ LongestBytes "é_x1é2".toList start stop ∧
      Text.slice? start stop "é_x1é2".toList = some "_x1".toList ∧
      ∀ other, start ≤ other → other < stop → identifierRun? [] "é_x1é2".toList other = some "_x1".toList := by
  have read : identifierRun? [] "é_x1é2".toList 3 = some "_x1".toList := by decide
  obtain ⟨start, stop, around, stretch, _, _, cut, _, each, _⟩ := (identifierLongest "é_x1é2".toList 3).2 _ read
  exact ⟨read, start, stop, around, stretch, cut, each⟩

end ShellAtlas
