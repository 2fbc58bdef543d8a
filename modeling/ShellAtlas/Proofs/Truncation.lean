import Mathlib.Data.Nat.Find
import ShellAtlas.Proofs.Identifier
/-!
Texts cut to a number of bytes. The beginnings of a cut text are the beginnings of the text that fit. So the
cut is the longest of them, and cutting twice is cutting to the smaller limit. A byte tells by itself whether
a character begins there, and the place of the cut is found over the bytes alone, going down from the limit.
No character has more than four bytes, which leaves three at most between that place and the limit.
-/
namespace ShellAtlas.Text

theorem headByte {n : Nat} (outside : n % 256 < 0x80 ∨ 0xBF < n % 256) : isTail (UInt8.ofNat n) = false := by
  rw [Bool.eq_false_iff]
  simp only [isTail, ne_eq, Bool.and_eq_true, decide_eq_true_eq, UInt8.le_iff_toNat_le, UInt8.reduceToNat,
    UInt8.toNat_ofNat']
  omega

theorem encodedShape (c : Char) :
    ∃ first rest, String.utf8EncodeChar c = first :: rest ∧ isTail first = false ∧
      ∀ b ∈ rest, isTail b = true := by
  simp only [String.utf8EncodeChar]
  -- One case for each number of bytes.
  repeat' split
  all_goals
    refine ⟨_, _, rfl, headByte (by omega), ?_⟩
    simp only [List.forall_mem_cons, List.not_mem_nil, false_implies, implies_true, tailByte, and_self]

theorem encodedTail {c : Char} {i : Nat} {b : UInt8} (found : (String.utf8EncodeChar c)[i]? = some b) :
    isTail b = false ↔ i = 0 := by
  obtain ⟨first, rest, spelled, lead, tails⟩ := encodedShape c
  rw [spelled] at found
  cases i with
  | zero =>
    obtain rfl := Option.some.inj found
    simp [lead]
  | succ i =>
    rw [List.getElem?_cons_succ] at found
    simp [tails b (List.mem_of_getElem? found)]

def dividesAt (bs : List UInt8) (offset : Nat) : Bool :=
  offset = 0 || offset = bs.length || bs[offset]?.any (!isTail ·)

theorem dividesIff {cs : List Char} {offset : Nat} : dividesAt (bytes cs) offset = true ↔ IsBoundary cs offset := by
  simp only [dividesAt, Bool.or_eq_true, decide_eq_true_eq, Option.any_eq_true, Bool.not_eq_eq_eq_not,
    Bool.not_true, ← byteLengthBytes]
  constructor
  · rintro ((rfl | rfl) | ⟨b, found, lead⟩)
    · exact ⟨[], cs, rfl, rfl⟩
    · exact ⟨cs, [], (List.append_nil cs).symm, rfl⟩
    · obtain ⟨before, c, after, whole, start, byte⟩ := byteOf found
      have first := (encodedTail byte).mp lead
      exact ⟨before, c :: after, whole, by omega⟩
  · rintro ⟨before, after, rfl, rfl⟩
    cases after with
    | nil => exact .inl (.inr (by rw [List.append_nil]))
    | cons c after =>
      obtain ⟨first, rest, spelled, lead, _⟩ := encodedShape c
      exact .inr ⟨first, by rw [leadByte, spelled]; rfl, lead⟩

theorem cutTwice (m n : Nat) (cs : List Char) : cut n (cut m cs) = cut (min m n) cs := by
  have same (front : List Char) : front <+: cut n (cut m cs) ↔ front <+: cut (min m n) cs := by
    rw [cutLeads, cutLeads, cutLeads, and_assoc, Nat.le_min]
  have there := (same _).mp (List.prefix_refl _)
  have back := (same _).mpr (List.prefix_refl _)
  exact there.eq_of_length_le back.length_le

theorem cutNext {cs : List Char} {limit : Nat} (long : limit < byteLength cs) :
    ∃ c rest, cs = cut limit cs ++ c :: rest ∧ limit < byteLength (cut limit cs) + c.utf8Size := by
  obtain ⟨rest, whole⟩ := cutBegins limit cs
  cases rest with
  | nil =>
    rw [List.append_nil] at whole
    have fits := cutLength limit cs
    rw [whole] at fits
    omega
  | cons c rest =>
    refine ⟨c, rest, whole.symm, Nat.lt_of_not_le fun fits => ?_⟩
    have more : cut limit cs ++ [c] <+: cut limit cs := by
      refine cutLeads.mpr ⟨⟨rest, by simpa using whole⟩, ?_⟩
      simpa [byteLengthAppend, byteLength] using fits
    have length := more.length_le
    rw [List.length_append, List.length_singleton] at length
    omega

theorem cutNear {cs : List Char} {limit : Nat} (long : limit < byteLength cs) :
    limit ≤ byteLength (cut limit cs) + 3 := by
  obtain ⟨c, _, _, past⟩ := cutNext long
  have size := c.utf8Size_le_four
  omega

theorem byteLengthLeads {front cs : List Char} (leads : front <+: cs) : byteLength front ≤ byteLength cs := by
  obtain ⟨rest, rfl⟩ := leads
  rw [byteLengthAppend]
  exact Nat.le_add_right _ _

theorem cutGreatest (limit : Nat) (cs : List Char) :
    IsGreatest {k | k ≤ limit ∧ dividesAt (bytes cs) k = true} (byteLength (cut limit cs)) := by
  constructor
  · obtain ⟨rest, whole⟩ := cutBegins limit cs
    exact ⟨cutLength limit cs, dividesIff.mpr ⟨_, rest, whole.symm, rfl⟩⟩
  · rintro k ⟨fits, divides⟩
    obtain ⟨before, after, whole, rfl⟩ := dividesIff.mp divides
    exact byteLengthLeads (cutLeads.mpr ⟨⟨after, whole.symm⟩, fits⟩)

/- The text before the first place, from `limit` down, where its bytes may be divided. None if the bytes before
that place are no whole characters. -/
def cutDown? (limit : Nat) (cs : List Char) : Option (List Char) :=
  if byteLength cs ≤ limit then some cs
  else takeBytes? (Nat.findGreatest (fun k => dividesAt (bytes cs) k = true) limit) cs

theorem cutDown (limit : Nat) (cs : List Char) : cutDown? limit cs = some (cut limit cs) := by
  unfold cutDown?
  split
  · rename_i fits
    rw [cutWhole fits]
  · obtain ⟨⟨fits, divides⟩, greatest⟩ := cutGreatest limit cs
    have place : Nat.findGreatest (fun k => dividesAt (bytes cs) k = true) limit = byteLength (cut limit cs) := by
      refine Nat.findGreatest_eq_iff.mpr ⟨fits, fun _ => divides, fun k past within divided => ?_⟩
      exact Nat.not_le_of_lt past (greatest ⟨within, divided⟩)
    obtain ⟨rest, whole⟩ := cutBegins limit cs
    have taken := takeFront (cut limit cs) rest
    rwa [whole, ← place] at taken

theorem ellipsisLength (limit : Nat) (cs : List Char) : byteLength (ellipsis limit cs) ≤ limit + 3 := by
  unfold ellipsis
  split
  · omega
  · have dots : byteLength ['.', '.', '.'] = 3 := by decide
    rw [byteLengthAppend, dots]
    exact Nat.add_le_add_right (cutLength limit cs) 3

/- A cut text is the longest beginning of the text that fits and ends where its bytes may be divided, and going
down from the limit finds it. It misses the limit by three bytes at most, three dots stand for what was cut
away, and a second cut is the cut to the smaller limit. -/
theorem truncationLongest (cs : List Char) (limit : Nat) :
    cut limit cs <+: cs ∧
    IsGreatest {k | k ≤ limit ∧ dividesAt (bytes cs) k = true} (byteLength (cut limit cs)) ∧
    cutDown? limit cs = some (cut limit cs) ∧
    (byteLength cs ≤ limit → cut limit cs = cs ∧ ellipsis limit cs = cs) ∧
    (limit < byteLength cs →
      limit ≤ byteLength (cut limit cs) + 3 ∧ ellipsis limit cs = cut limit cs ++ "...".toList) ∧
    byteLength (ellipsis limit cs) ≤ limit + 3 ∧
    ∀ further, cut further (cut limit cs) = cut (min limit further) cs := by
  refine ⟨cutBegins limit cs, cutGreatest limit cs, cutDown limit cs, fun fits => ?_, fun long => ?_,
    ellipsisLength limit cs, fun further => cutTwice limit further cs⟩
  · exact ⟨cutWhole fits, if_pos fits⟩
  · exact ⟨cutNear long, if_neg (Nat.not_le_of_lt long)⟩

theorem faceCut :
    4 < byteLength ['a', '😀', 'b'] ∧ cut 4 ['a', '😀', 'b'] = ['a'] ∧
    4 ≤ byteLength (cut 4 ['a', '😀', 'b']) + 3 ∧
    ellipsis 4 ['a', '😀', 'b'] = cut 4 ['a', '😀', 'b'] ++ "...".toList ∧
    byteLength ['a', '😀', 'b'] ≤ 6 ∧ ellipsis 6 ['a', '😀', 'b'] = ['a', '😀', 'b'] ∧
    cut 5 (cut 4 ['a', '😀', 'b']) = cut 4 ['a', '😀', 'b'] := by
  obtain ⟨_, _, _, _, shortened, _, again⟩ := truncationLongest ['a', '😀', 'b'] 4
  obtain ⟨_, _, _, whole, _⟩ := truncationLongest ['a', '😀', 'b'] 6
  have long : 4 < byteLength ['a', '😀', 'b'] := by decide
  have fits : byteLength ['a', '😀', 'b'] ≤ 6 := by decide
  exact ⟨long, by decide, (shortened long).1, (shortened long).2, fits, (whole fits).2, again 5⟩

end ShellAtlas.Text
