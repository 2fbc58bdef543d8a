import Mathlib.Order.Bounds.Basic
import ShellAtlas.Proofs.Position
/-!
Columns of a line in bytes and in UTF-16 units. Both conversions are read off one fact: a unit column
leads to a byte column that is not behind another exactly if it is not behind the units of that one. The
two agree at the boundaries of characters, one going up to the next boundary and the other down to the
last. A character has no more units than bytes, so on a line that 32 bits can measure no count of either
leaves 32 bits.
-/
namespace ShellAtlas.Text

theorem unitsBounds (c : Char) : 0 < units16 c ∧ units16 c ≤ c.utf8Size := by
  have filled := c.utf8Size_pos
  have four : c.utf8Size = 4 ↔ 0xFFFF < c.toNat := Char.utf8Size_eq_four_iff
  unfold units16
  split <;> omega

theorem unitLengthAppend (a b : List Char) : unitLength (a ++ b) = unitLength a + unitLength b := by
  induction a with
  | nil => simp [unitLength]
  | cons c a ih => simp [unitLength, ih, Nat.add_assoc]

theorem unitLengthBytes (cs : List Char) : unitLength cs ≤ byteLength cs := by
  induction cs with
  | nil => exact Nat.le_refl _
  | cons c cs ih => exact Nat.add_le_add (unitsBounds c).2 ih

theorem byteColumnZero (cs : List Char) : byteColumn cs 0 = 0 := by
  cases cs <;> rfl

theorem byteColumnBehind {column : Nat} (behind : 0 < column) (c : Char) (cs : List Char) :
    byteColumn (c :: cs) column = c.utf8Size + byteColumn cs (column - units16 c) := by
  cases column with
  | zero => contradiction
  | succ column => rfl

theorem byteColumnLE {text : List Char} {column byte : Nat} (within : column ≤ unitLength text) :
    byteColumn text column ≤ byte ↔ column ≤ unitColumn text byte := by
  induction text generalizing column byte with
  | nil =>
    have start : column = 0 := Nat.le_zero.mp within
    simp [start, byteColumnZero]
  | cons c cs ih =>
    rcases Nat.eq_zero_or_pos column with rfl | behind
    · simp [byteColumnZero]
    · have units := (unitsBounds c).1
      rw [byteColumnBehind behind, unitColumn, cut]
      split
      · have rest : column - units16 c ≤ unitLength cs := by
          simp only [unitLength] at within
          omega
        have step : byteColumn cs (column - units16 c) ≤ byte - c.utf8Size ↔
            column - units16 c ≤ unitLength (cut (byte - c.utf8Size) cs) := ih rest
        simp only [unitLength]
        omega
      · simp only [unitLength]
        omega

theorem cutLeads {front cs : List Char} {limit : Nat} :
    front <+: cut limit cs ↔ front <+: cs ∧ byteLength front ≤ limit := by
  induction cs generalizing front limit with
  | nil =>
    rw [cut, List.prefix_nil]
    exact ⟨fun empty => ⟨empty, by simp [empty, byteLength]⟩, And.left⟩
  | cons c cs ih =>
    cases front with
    | nil => simp [byteLength]
    | cons d front =>
      rw [cut, List.cons_prefix_cons, byteLength]
      split
      · rw [List.cons_prefix_cons, ih, and_assoc]
        refine and_congr_right fun same => and_congr_right fun _ => ?_
        rw [same]
        omega
      · refine ⟨fun leads => absurd (List.prefix_nil.mp leads) (List.cons_ne_nil d front), ?_⟩
        rintro ⟨⟨rfl, _⟩, fits⟩
        omega

theorem cutBegins (limit : Nat) (cs : List Char) : cut limit cs <+: cs :=
  (cutLeads.mp (List.prefix_refl _)).1

theorem cutFront (front back : List Char) : cut (byteLength front) (front ++ back) = front := by
  induction front with
  | nil =>
    cases back with
    | nil => rfl
    | cons c back => simp [cut, byteLength, Nat.not_le_of_lt c.utf8Size_pos]
  | cons c front ih => simp [cut, byteLength, ih]

theorem cutWhole {cs : List Char} {limit : Nat} (fits : byteLength cs ≤ limit) : cut limit cs = cs := by
  have back : cs <+: cut limit cs := cutLeads.mpr ⟨List.prefix_refl cs, fits⟩
  exact (cutBegins limit cs).eq_of_length_le back.length_le

theorem cutLength (limit : Nat) (cs : List Char) : byteLength (cut limit cs) ≤ limit :=
  (cutLeads.mp (List.prefix_refl _)).2

theorem unitColumnFront (front back : List Char) :
    unitColumn (front ++ back) (byteLength front) = unitLength front := by
  rw [unitColumn, cutFront]

theorem byteColumnFront (front back : List Char) :
    byteColumn (front ++ back) (unitLength front) = byteLength front := by
  induction front with
  | nil => exact byteColumnZero back
  | cons c front ih =>
    have units := (unitsBounds c).1
    rw [List.cons_append, byteColumnBehind (by simp only [unitLength]; omega)]
    simp only [unitLength, byteLength, Nat.add_sub_cancel_left, ih]

theorem byteColumnParts (text : List Char) (column : Nat) :
    ∃ front back, text = front ++ back ∧ byteColumn text column = byteLength front ∧
      (unitLength text ≤ column → front = text) := by
  induction text generalizing column with
  | nil => exact ⟨[], [], rfl, rfl, fun _ => rfl⟩
  | cons c cs ih =>
    have units := (unitsBounds c).1
    rcases Nat.eq_zero_or_pos column with rfl | behind
    · refine ⟨[], c :: cs, rfl, rfl, fun past => ?_⟩
      simp only [unitLength] at past
      omega
    · obtain ⟨front, back, whole, place, last⟩ := ih (column - units16 c)
      refine ⟨c :: front, back, by simp [whole], ?_, fun past => ?_⟩
      · rw [byteColumnBehind behind, place, byteLength]
      · simp only [unitLength] at past
        rw [last (by omega)]

theorem byteColumnPast {text : List Char} {column : Nat} (past : unitLength text ≤ column) :
    byteColumn text column = byteLength text := by
  obtain ⟨front, back, _, place, last⟩ := byteColumnParts text column
  rw [place, last past]

theorem byteColumnMono (text : List Char) : Monotone (byteColumn text) := by
  intro column further le
  rcases Nat.le_total further (unitLength text) with within | past
  · rw [byteColumnLE (Nat.le_trans le within)]
    exact Nat.le_trans le ((byteColumnLE within).mp (Nat.le_refl _))
  · obtain ⟨front, back, whole, place, _⟩ := byteColumnParts text column
    rw [byteColumnPast past, place, whole, byteLengthAppend]
    exact Nat.le_add_right _ _

theorem unitColumnWithin (text : List Char) (byte : Nat) : unitColumn text byte ≤ unitLength text := by
  obtain ⟨rest, whole⟩ := cutBegins byte text
  have parts := unitLengthAppend (cut byte text) rest
  rw [whole] at parts
  rw [unitColumn, parts]
  exact Nat.le_add_right _ _

theorem unitColumnBytes (text : List Char) (byte : Nat) : unitColumn text byte ≤ byte :=
  Nat.le_trans (unitLengthBytes _) (cutLength byte text)

theorem unitColumnMono (text : List Char) : Monotone (unitColumn text) := by
  intro byte further le
  have within := unitColumnWithin text byte
  rw [← byteColumnLE within]
  exact Nat.le_trans ((byteColumnLE within).mpr (Nat.le_refl _)) le

theorem byteColumnLeast {text : List Char} {column : Nat} (within : column ≤ unitLength text) :
    IsLeast {k | ∃ front, front <+: text ∧ byteLength front = k ∧ column ≤ unitLength front}
      (byteColumn text column) := by
  constructor
  · obtain ⟨front, back, rfl, place, _⟩ := byteColumnParts text column
    refine ⟨front, List.prefix_append front back, place.symm, ?_⟩
    rw [← unitColumnFront front back, ← place]
    exact (byteColumnLE within).mp (Nat.le_refl _)
  · rintro k ⟨front, ⟨back, rfl⟩, rfl, enough⟩
    rw [byteColumnLE within, unitColumnFront]
    exact enough

theorem byteColumnBack {text : List Char} {byte : Nat} :
    byteColumn text (unitColumn text byte) = byte ↔ ∃ front, front <+: text ∧ byteLength front = byte := by
  constructor
  · intro back
    obtain ⟨front, rest, whole, place, _⟩ := byteColumnParts text (unitColumn text byte)
    exact ⟨front, whole ▸ List.prefix_append front rest, place.symm.trans back⟩
  · rintro ⟨front, ⟨rest, rfl⟩, rfl⟩
    rw [unitColumnFront, byteColumnFront]

def InsidePair (text : List Char) (column : Nat) : Prop :=
  ∃ front c back, text = front ++ c :: back ∧ units16 c = 2 ∧ column = unitLength front + 1

theorem insideOrFront {text : List Char} {column : Nat} (within : column ≤ unitLength text) :
    InsidePair text column ∨ ∃ front, front <+: text ∧ unitLength front = column := by
  induction text generalizing column with
  | nil => exact .inr ⟨[], List.prefix_refl _, (Nat.le_zero.mp within).symm⟩
  | cons c cs ih =>
    have two : units16 c = 1 ∨ units16 c = 2 := by
      unfold units16
      split
      · exact .inl rfl
      · exact .inr rfl
    by_cases past : units16 c ≤ column
    · have rest : column - units16 c ≤ unitLength cs := by
        simp only [unitLength] at within
        omega
      rcases ih rest with ⟨front, d, back, rfl, pair, place⟩ | ⟨front, leads, place⟩
      · refine .inl ⟨c :: front, d, back, rfl, pair, ?_⟩
        simp only [unitLength]
        omega
      · refine .inr ⟨c :: front, List.cons_prefix_cons.mpr ⟨rfl, leads⟩, ?_⟩
        simp only [unitLength]
        omega
    · rcases Nat.eq_zero_or_pos column with rfl | behind
      · exact .inr ⟨[], List.nil_prefix, rfl⟩
      · refine .inl ⟨[], c, cs, rfl, by omega, ?_⟩
        simp only [unitLength]
        omega

theorem frontNotInside {front text : List Char} (leads : front <+: text) :
    ¬ InsidePair text (unitLength front) := by
  rintro ⟨before, c, after, rfl, pair, place⟩
  obtain ⟨back, whole⟩ := leads
  rcases List.append_eq_append_iff.mp whole with ⟨gap, longer, _⟩ | ⟨gap, longer, rest⟩
  · rw [longer, unitLengthAppend] at place
    omega
  · cases gap with
    | nil =>
      rw [longer, List.append_nil] at place
      omega
    | cons d gap =>
      obtain ⟨rfl, _⟩ := List.cons.inj rest
      rw [longer, unitLengthAppend] at place
      simp only [unitLength] at place
      omega

theorem unitColumnBack {text : List Char} {column : Nat} (within : column ≤ unitLength text) :
    unitColumn text (byteColumn text column) = column ↔ ¬ InsidePair text column := by
  constructor
  · intro back
    obtain ⟨front, rest, rfl, place, _⟩ := byteColumnParts text column
    rw [place, unitColumnFront] at back
    rw [← back]
    exact frontNotInside (List.prefix_append front rest)
  · intro outside
    rcases insideOrFront within with inside | ⟨front, ⟨rest, rfl⟩, rfl⟩
    · exact absurd inside outside
    · rw [byteColumnFront, unitColumnFront]

def sum32? (a b : UInt32) : Option UInt32 :=
  if a.toNat + b.toNat < 0x100000000 then some (a + b) else none

def byteColumn32? (column : UInt32) (byte units : UInt32) : List Char → Option UInt32
  | [] => some byte
  | c :: cs =>
    if column ≤ units then some byte
    else do
      let byte ← sum32? byte (.ofNat c.utf8Size)
      let units ← sum32? units (.ofNat (units16 c))
      byteColumn32? column byte units cs

theorem sum32Fits {a : UInt32} {n : Nat} (fits : a.toNat + n < 0x100000000) :
    ∃ sum, sum32? a (.ofNat n) = some sum ∧ sum.toNat = a.toNat + n := by
  have small : (UInt32.ofNat n).toNat = n := by
    rw [UInt32.toNat_ofNat', Nat.mod_eq_of_lt (by omega)]
  refine ⟨a + .ofNat n, ?_, ?_⟩
  · rw [sum32?, small, if_pos fits]
  · rw [UInt32.toNat_add, small, Nat.mod_eq_of_lt (by omega)]

theorem byteColumn32 (column : UInt32) {byte units : UInt32} {cs : List Char}
    (bytes : byte.toNat + byteLength cs < 0x100000000) (fits : units.toNat + unitLength cs < 0x100000000) :
    ∃ k, byteColumn32? column byte units cs = some k ∧
      k.toNat = byte.toNat + byteColumn cs (column.toNat - units.toNat) := by
  induction cs generalizing byte units with
  | nil => exact ⟨byte, rfl, rfl⟩
  | cons c cs ih =>
    rw [byteColumn32?]
    split
    · rename_i reached
      have none : column.toNat - units.toNat = 0 := Nat.sub_eq_zero_of_le (UInt32.le_iff_toNat_le.mp reached)
      exact ⟨byte, rfl, by rw [none, byteColumnZero, Nat.add_zero]⟩
    · rename_i further
      rw [UInt32.le_iff_toNat_le] at further
      simp only [byteLength, unitLength] at bytes fits
      obtain ⟨nextByte, byteSum, byteValue⟩ := sum32Fits (a := byte) (n := c.utf8Size) (by omega)
      obtain ⟨nextUnits, unitSum, unitValue⟩ := sum32Fits (a := units) (n := units16 c) (by omega)
      have bytesLeft : nextByte.toNat + byteLength cs < 0x100000000 := by omega
      have unitsLeft : nextUnits.toNat + unitLength cs < 0x100000000 := by omega
      obtain ⟨k, found, value⟩ := ih bytesLeft unitsLeft
      refine ⟨k, by simp [byteSum, unitSum, found], ?_⟩
      rw [value, byteColumnBehind (by omega), byteValue, unitValue, Nat.sub_add_eq, Nat.add_assoc]

end ShellAtlas.Text

namespace ShellAtlas.Position
open Text

/- From units to bytes a column goes up to the first boundary that has enough units before it, and from
bytes to units down to the last boundary. Each conversion undoes the other where it starts from a
boundary. -/
theorem columnsAdjoint (text : List Char) (line : Nat) :
    (∀ column, (ofUnits line column text).line = line ∧
      (column ≤ unitLength text →
        IsLeast {k | ∃ front, front <+: text ∧ byteLength front = k ∧ column ≤ unitLength front}
          (ofUnits line column text).character) ∧
      (unitLength text < column → (ofUnits line column text).character = byteLength text)) ∧
    (∀ column byte, column ≤ unitLength text →
      ((ofUnits line column text).character ≤ byte ↔ column ≤ (toUnits ⟨line, byte⟩ text).character)) ∧
    Monotone (fun column => (ofUnits line column text).character) ∧
    Monotone (fun byte => (toUnits ⟨line, byte⟩ text).character) ∧
    (∀ byte, ofUnits line (toUnits ⟨line, byte⟩ text).character text = ⟨line, byte⟩ ↔
      ∃ front, front <+: text ∧ byteLength front = byte) ∧
    (∀ column, column ≤ unitLength text →
      ((ofUnits line column text).toUnits text = ⟨line, column⟩ ↔ ¬ InsidePair text column)) ∧
    (byteLength text < 0x100000000 →
      (∀ column : UInt32, ∃ k, byteColumn32? column 0 0 text = some k ∧
        k.toNat = (ofUnits line column.toNat text).character) ∧
      ∀ byte, (toUnits ⟨line, byte⟩ text).character < 0x100000000) := by
  refine ⟨fun column => ⟨rfl, byteColumnLeast, fun past => byteColumnPast (Nat.le_of_lt past)⟩,
    fun column byte within => byteColumnLE within, byteColumnMono text, unitColumnMono text, ?_, ?_, ?_⟩
  · intro byte
    rw [ofUnits, Position.mk.injEq, ← byteColumnBack]
    exact and_iff_right rfl
  · intro column within
    rw [toUnits, Position.mk.injEq, ← unitColumnBack within]
    exact and_iff_right rfl
  · intro short
    have units := unitLengthBytes text
    have bytesFit : (0 : UInt32).toNat + byteLength text < 0x100000000 := by simpa using short
    have unitsFit : (0 : UInt32).toNat + unitLength text < 0x100000000 := by
      rw [UInt32.toNat_zero]
      omega
    refine ⟨fun column => ?_, fun byte => ?_⟩
    · obtain ⟨k, found, value⟩ := byteColumn32 column bytesFit unitsFit
      exact ⟨k, found, by simpa [ofUnits] using value⟩
    · exact Nat.lt_of_le_of_lt (unitColumnWithin text byte) (by omega)

def mixedLine : List Char :=
  ['a', 'é', '€', '😀']

theorem mixedAdjoint :
    ofUnits 0 4 mixedLine = ⟨0, 10⟩ ∧ toUnits ⟨0, 9⟩ mixedLine = ⟨0, 3⟩ ∧ InsidePair mixedLine 4 ∧
    IsLeast {k | ∃ front, front <+: mixedLine ∧ byteLength front = k ∧ 4 ≤ unitLength front}
      (ofUnits 0 4 mixedLine).character ∧
    (ofUnits 0 6 mixedLine).character = byteLength mixedLine ∧
    ((ofUnits 0 4 mixedLine).character ≤ 9 ↔ 4 ≤ (toUnits ⟨0, 9⟩ mixedLine).character) ∧
    ((ofUnits 0 4 mixedLine).toUnits mixedLine = ⟨0, 4⟩ ↔ ¬ InsidePair mixedLine 4) ∧
    (∃ k, byteColumn32? 4 0 0 mixedLine = some k ∧ k.toNat = (ofUnits 0 4 mixedLine).character) := by
  have within : 4 ≤ unitLength mixedLine := by decide
  have pair : InsidePair mixedLine 4 := ⟨['a', 'é', '€'], '😀', [], rfl, by decide, by decide⟩
  obtain ⟨up, adjoint, _, _, _, back, bounded⟩ := columnsAdjoint mixedLine 0
  exact ⟨by decide, by decide, pair, (up 4).2.1 within, (up 6).2.2 (by decide), adjoint 4 9 within, back 4 within,
    (bounded (by decide)).1 4⟩

end ShellAtlas.Position
