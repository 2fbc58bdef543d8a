import ShellAtlas.Proofs.Position
import ShellAtlas.Text.Blank
/-!
Pieces of a text at a byte column. A slice, a trimmed text and a line are pieces with something known
about what stands around them. A piece without blanks that a column of a line falls on lies in that
line, since a blank or an end of the text stands on either side of the line.
-/
namespace ShellAtlas.Text

theorem byteLengthPos {cs : List Char} (filled : cs ≠ []) : 0 < byteLength cs := by
  cases cs with
  | nil => contradiction
  | cons c cs =>
    have first := c.utf8Size_pos
    simp only [byteLength]
    omega

def Spanned (text : List Char) (column : Nat) (piece : List Char) : Prop :=
  ∃ before after, text = before ++ piece ++ after ∧
    byteLength before ≤ column ∧ column < byteLength before + byteLength piece

theorem spannedSplit {text left right : List Char} {column : Nat}
    (spanned : Spanned text column (left ++ right)) : Spanned text column left ∨ Spanned text column right := by
  obtain ⟨before, after, whole, first, last⟩ := spanned
  rw [byteLengthAppend] at last
  by_cases here : column < byteLength before + byteLength left
  · exact .inl ⟨before, right ++ after, by simp [whole], first, here⟩
  · refine .inr ⟨before ++ left, after, by simp [whole], ?_, ?_⟩ <;> rw [byteLengthAppend] <;> omega

theorem spannedChar {text piece : List Char} {column : Nat} (spanned : Spanned text column piece) :
    ∃ c ∈ piece, Spanned text column [c] := by
  induction piece with
  | nil =>
    obtain ⟨before, after, _, first, last⟩ := spanned
    simp only [byteLength] at last
    omega
  | cons c piece ih =>
    rw [← List.singleton_append] at spanned
    rcases spannedSplit spanned with here | later
    · exact ⟨c, List.mem_cons_self .., here⟩
    · obtain ⟨d, member, found⟩ := ih later
      exact ⟨d, List.mem_cons_of_mem _ member, found⟩

theorem spannedOnce {text : List Char} {column : Nat} {c d : Char} (left : Spanned text column [c])
    (right : Spanned text column [d]) : c = d := by
  obtain ⟨before, after, whole, first, last⟩ := left
  obtain ⟨front, back, same, start, stop⟩ := right
  rw [whole] at same
  simp only [List.append_assoc, List.singleton_append, byteLength, Nat.add_zero] at same last stop
  -- One of the two beginnings leads the other. It would have to end behind the column.
  rcases List.append_eq_append_iff.mp same with ⟨gap, longer, rest⟩ | ⟨gap, longer, rest⟩
  · cases gap with
    | nil => exact (List.cons.inj rest).1
    | cons x gap =>
      obtain ⟨rfl, _⟩ := List.cons.inj rest
      simp only [longer, byteLengthAppend, byteLength] at start
      omega
  · cases gap with
    | nil => exact (List.cons.inj rest).1.symm
    | cons x gap =>
      obtain ⟨rfl, _⟩ := List.cons.inj rest
      simp only [longer, byteLengthAppend, byteLength] at first
      omega

theorem dropParts {n : Nat} {cs rest : List Char} (dropped : dropBytes? n cs = some rest) :
    ∃ before, cs = before ++ rest ∧ byteLength before = n := by
  induction cs generalizing n with
  | nil =>
    cases n with
    | zero => exact ⟨[], by simpa [dropBytes?] using dropped, rfl⟩
    | succ n => simp [dropBytes?] at dropped
  | cons c cs ih =>
    cases n with
    | zero => exact ⟨[], by simpa [dropBytes?] using dropped, rfl⟩
    | succ n =>
      rw [dropBytes?] at dropped
      split at dropped
      · obtain ⟨before, whole, length⟩ := ih dropped
        refine ⟨c :: before, by simp [whole], ?_⟩
        simp only [byteLength]
        omega
      · contradiction

theorem takeParts {n : Nat} {cs piece : List Char} (taken : takeBytes? n cs = some piece) :
    ∃ after, cs = piece ++ after ∧ byteLength piece = n := by
  induction cs generalizing n piece with
  | nil =>
    cases n with
    | zero =>
      cases Option.some.inj taken
      exact ⟨[], rfl, rfl⟩
    | succ n => simp [takeBytes?] at taken
  | cons c cs ih =>
    cases n with
    | zero =>
      cases Option.some.inj taken
      exact ⟨c :: cs, rfl, rfl⟩
    | succ n =>
      rw [takeBytes?] at taken
      split at taken
      · obtain ⟨rest, inner, rfl⟩ := Option.map_eq_some_iff.mp taken
        obtain ⟨after, whole, length⟩ := ih inner
        refine ⟨after, by simp [whole], ?_⟩
        simp only [byteLength]
        omega
      · contradiction

theorem sliceParts {start stop : Nat} {cs piece : List Char} (cut : slice? start stop cs = some piece) :
    ∃ before after, cs = before ++ piece ++ after ∧ byteLength before = start ∧
      byteLength before + byteLength piece = stop := by
  unfold slice? at cut
  split at cut
  · obtain ⟨rest, dropped, taken⟩ := Option.bind_eq_some_iff.mp cut
    obtain ⟨before, front, length⟩ := dropParts dropped
    obtain ⟨after, back, size⟩ := takeParts taken
    exact ⟨before, after, by rw [front, back, List.append_assoc], length, by omega⟩
  · contradiction

theorem headDropped (cs : List Char) : ∀ c ∈ (cs.dropWhile isBlank).head?, isBlank c = false := by
  intro c first
  have stopped := List.head?_dropWhile_not isBlank cs
  rw [Option.mem_def.mp first] at stopped
  exact stopped

theorem trimEndParts (cs : List Char) :
    ∃ right, cs = trimEnd cs ++ right ∧ (∀ c ∈ right, isBlank c = true) ∧
      ∀ c ∈ (trimEnd cs).getLast?, isBlank c = false := by
  refine ⟨(cs.reverse.takeWhile isBlank).reverse, ?_, ?_, ?_⟩
  · rw [trimEnd, ← List.reverse_append, List.takeWhile_append_dropWhile, List.reverse_reverse]
  · intro c member
    exact List.all_eq_true.mp List.all_takeWhile c (List.mem_reverse.mp member)
  · rw [trimEnd, List.getLast?_reverse]
    exact headDropped cs.reverse

theorem trimParts (cs : List Char) :
    ∃ left right, cs = left ++ trim cs ++ right ∧ (∀ c ∈ left, isBlank c = true) ∧
      ∀ c ∈ right, isBlank c = true := by
  obtain ⟨right, back, blank, _⟩ := trimEndParts (trimStart cs)
  refine ⟨cs.takeWhile isBlank, right, ?_, List.all_eq_true.mp List.all_takeWhile, blank⟩
  rw [List.append_assoc, trim, ← back]
  exact List.takeWhile_append_dropWhile.symm

theorem dropBlank {cs : List Char} (solid : ∀ c ∈ cs.head?, isBlank c = false) : cs.dropWhile isBlank = cs := by
  cases cs with
  | nil => rfl
  | cons c cs => simp [solid c rfl]

theorem trimSolid {cs : List Char} (solid : ∀ c ∈ cs, isBlank c = false) : trim cs = cs := by
  have first : ∀ c ∈ cs.head?, isBlank c = false := fun c here => solid c (List.mem_of_mem_head? here)
  have last : ∀ c ∈ cs.reverse.head?, isBlank c = false := fun c here =>
    solid c (List.mem_reverse.mp (List.mem_of_mem_head? here))
  rw [trim, trimStart, dropBlank first, trimEnd, dropBlank last, List.reverse_reverse]

theorem trimTrim (cs : List Char) : trim (trim cs) = trim cs := by
  have first : ∀ c ∈ (trim cs).head?, isBlank c = false := by
    intro c first
    refine headDropped cs c ?_
    have front : trim cs <+: trimStart cs := by
      rw [trim, trimEnd, ← List.reverse_suffix, List.reverse_reverse]
      exact List.dropWhile_suffix isBlank
    obtain ⟨right, whole⟩ := front
    rw [← trimStart, ← whole, List.head?_append, Option.mem_def.mp first]
    rfl
  have last : ∀ c ∈ (trim cs).reverse.head?, isBlank c = false := by
    rw [trim, trimEnd, List.reverse_reverse]
    exact headDropped _
  rw [trim, trimStart, dropBlank first, trimEnd, dropBlank last, List.reverse_reverse]

theorem trimLength (cs : List Char) : byteLength (trim cs) ≤ byteLength cs := by
  obtain ⟨left, right, whole, _, _⟩ := trimParts cs
  have lengths := congrArg byteLength whole
  rw [byteLengthAppend, byteLengthAppend] at lengths
  omega

theorem trimSpanned {text piece : List Char} {column : Nat} {c : Char} (spanned : Spanned text column piece)
    (char : Spanned text column [c]) (solid : isBlank c = false) : Spanned text column (trim piece) := by
  obtain ⟨left, right, whole, blankLeft, blankRight⟩ := trimParts piece
  have margin : ∀ blanks : List Char, (∀ d ∈ blanks, isBlank d = true) → ¬ Spanned text column blanks := by
    intro blanks all there
    obtain ⟨d, member, found⟩ := spannedChar there
    rw [spannedOnce found char] at member
    rw [all c member] at solid
    contradiction
  rw [whole] at spanned
  rcases spannedSplit spanned with front | there
  · rcases spannedSplit front with there | inner
    · exact absurd there (margin left blankLeft)
    · exact inner
  · exact absurd there (margin right blankRight)

/- A line with its carriage return: behind as many newlines as its number says, the last of them directly
before it, and before a newline or at the end. -/
structure Row (text : List Char) (number : Nat) (before raw after : List Char) : Prop where
  whole : text = before ++ raw ++ after
  lines : before.count '\n' = number
  closed : ∀ c ∈ before.getLast?, c = '\n'
  plain : '\n' ∉ raw
  ended : ∀ c ∈ after.head?, c = '\n'

section Rows
variable {cs before raw after : List Char} {i : Nat}

theorem rowUnder (row : Row cs i before raw after) : Row ('\n' :: cs) (i + 1) ('\n' :: before) raw after where
  whole := by simp [row.whole]
  lines := by simp [row.lines]
  closed := by
    intro d last
    rw [List.getLast?_cons] at last
    cases earlier : before.getLast? with
    | none => simpa [earlier, eq_comm] using last
    | some e => exact row.closed d (by simpa [earlier] using last)
  plain := row.plain
  ended := row.ended

theorem rowStart (row : Row cs 0 before raw after) : before = [] := by
  rcases before.eq_nil_or_concat with empty | ⟨front, last, rfl⟩
  · exact empty
  · have lines := row.lines
    rw [row.closed last (by simp)] at lines
    simp at lines

theorem rowFirst (row : Row cs 0 before raw after) {c : Char} (other : c ≠ '\n') :
    Row (c :: cs) 0 [] (c :: raw) after := by
  have whole : cs = raw ++ after := by simpa [rowStart row] using row.whole
  exact ⟨by simp [whole], rfl, by simp, by simp [Ne.symm other, row.plain], row.ended⟩

theorem rowFurther (row : Row cs (i + 1) before raw after) {c : Char} (other : c ≠ '\n') :
    Row (c :: cs) (i + 1) (c :: before) raw after := by
  refine ⟨by simp [row.whole], by simp [other, row.lines], ?_, row.plain, row.ended⟩
  intro d last
  cases before with
  | nil => simpa using row.lines
  | cons e rest =>
    rw [List.getLast?_cons_cons] at last
    exact row.closed d last

theorem rowOf (found : (rawLines cs)[i]? = some raw) : ∃ before after, Row cs i before raw after := by
  unfold rawLines at found
  induction cs generalizing i raw with
  | nil =>
    cases i with
    | zero =>
      cases Option.some.inj found
      exact ⟨[], [], rfl, rfl, by simp, by simp, by simp⟩
    | succ i => simp [List.splitOn, List.splitOnP_nil] at found
  | cons c cs ih =>
    rw [List.splitOn_cons_eq_if_modifyHead] at found
    by_cases newline : c = '\n'
    · subst newline
      rw [if_pos (by simp)] at found
      cases i with
      | zero =>
        cases Option.some.inj found
        exact ⟨[], '\n' :: cs, rfl, rfl, by simp, by simp, by simp⟩
      | succ i =>
        obtain ⟨before, after, row⟩ := ih (i := i) found
        exact ⟨_, _, rowUnder row⟩
    · rw [if_neg (by simpa using newline), List.getElem?_modifyHead] at found
      cases i with
      | zero =>
        rw [if_pos rfl] at found
        obtain ⟨rest, inner, rfl⟩ := Option.map_eq_some_iff.mp found
        obtain ⟨before, after, row⟩ := ih inner
        exact ⟨_, _, rowFirst row newline⟩
      | succ i =>
        rw [if_neg (Nat.succ_ne_zero i)] at found
        obtain ⟨before, after, row⟩ := ih found
        exact ⟨_, _, rowFurther row newline⟩

theorem rawLinesLength (cs : List Char) : (rawLines cs).length = cs.count '\n' + 1 := by
  unfold rawLines
  induction cs with
  | nil => rfl
  | cons c cs ih =>
    rw [List.splitOn_cons_eq_if_modifyHead]
    by_cases newline : c = '\n'
    · simp [newline, ih]
    · simp [newline, ih]

theorem firstLine (plain : '\n' ∉ raw) (ended : ∀ c ∈ after.head?, c = '\n') :
    (rawLines (raw ++ after))[0]? = some raw := by
  unfold rawLines
  cases after with
  | nil => rw [List.append_nil, List.splitOn_eq_singleton plain, List.getElem?_cons_zero]
  | cons c after =>
    have newline : c = '\n' := ended c rfl
    rw [newline, List.splitOn_append_cons_self_of_not_mem plain, List.getElem?_cons_zero]

theorem rowFound (row : Row cs i before raw after) : (rawLines cs)[i]? = some raw := by
  have first := firstLine row.plain row.ended
  rw [row.whole, List.append_assoc, ← row.lines]
  rcases before.eq_nil_or_concat with rfl | ⟨front, last, rfl⟩
  · exact first
  · -- What stands before the last newline gives as many lines as there are newlines in front.
    have newline : last = '\n' := row.closed last (by simp)
    have above : (rawLines front).length = (front.concat last).count '\n' := by
      rw [rawLinesLength, newline, List.concat_eq_append, List.count_append, List.count_singleton_self]
    have parts : rawLines (front.concat last ++ (raw ++ after)) = rawLines front ++ rawLines (raw ++ after) := by
      rw [newline, List.concat_append]
      exact List.splitOn_append_cons_self ..
    rw [parts, ← above, List.getElem?_append_right (Nat.le_refl _), Nat.sub_self]
    exact first

end Rows

theorem lineParts {cs line : List Char} {i : Nat} (found : lineAt? cs i = some line) :
    ∃ before after, cs = before ++ line ++ after ∧ before.count '\n' = i ∧
      (∀ c ∈ before.getLast?, c = '\n') ∧ '\n' ∉ line ∧ ∀ c ∈ after.head?, isBlank c = true := by
  obtain ⟨raw, piece, rfl⟩ := Option.map_eq_some_iff.mp found
  obtain ⟨before, after, row⟩ := rowOf piece
  have blank : isBlank '\n' = true ∧ isBlank '\r' = true := by decide
  unfold dropReturn
  split
  · rename_i returned
    obtain ⟨front, rfl⟩ := List.getLast?_eq_some_iff.mp returned
    refine ⟨before, '\r' :: after, by simp [row.whole], row.lines, row.closed, ?_, by simp [blank]⟩
    rw [List.dropLast_concat]
    exact fun inside => row.plain (List.mem_append_left _ inside)
  · refine ⟨before, after, row.whole, row.lines, row.closed, row.plain, ?_⟩
    intro c next
    rw [row.ended c next]
    exact blank.1

section Solid
variable {piece : List Char} (solid : ∀ c ∈ piece, isBlank c = false)
include solid

theorem solidBehind {before rest front back : List Char} (closed : ∀ c ∈ before.getLast?, c = '\n')
    (same : before ++ rest = front ++ (piece ++ back))
    (reaches : byteLength before < byteLength front + byteLength piece) :
    ∃ gap, front = before ++ gap ∧ rest = gap ++ (piece ++ back) := by
  rcases List.append_eq_append_iff.mp same with found | ⟨gap, longer, across⟩
  · exact found
  · rcases gap.eq_nil_or_concat with rfl | ⟨rows, newline, rfl⟩
    · exact ⟨[], by simpa using longer.symm, across.symm⟩
    · -- The newline would be in the piece.
      have inside : newline ∈ piece := by
        rcases List.append_eq_append_iff.mp across with ⟨more, short, _⟩ | ⟨more, long, _⟩
        · rw [longer, short, byteLengthAppend, byteLengthAppend] at reaches
          omega
        · simp [long]
      have blank : isBlank newline = true := by
        rw [closed newline (by simp [longer])]
        decide
      rw [solid newline inside] at blank
      contradiction

theorem solidBefore {line after gap back : List Char} (ended : ∀ c ∈ after.head?, isBlank c = true)
    (same : line ++ after = gap ++ piece ++ back) (starts : byteLength gap < byteLength line) :
    ∃ more, line = gap ++ piece ++ more := by
  rcases List.append_eq_append_iff.mp same with ⟨more, long, next⟩ | ⟨more, short, _⟩
  · cases more with
    | nil => exact ⟨[], by simpa using long.symm⟩
    | cons blank more =>
      have inside : blank ∈ piece := by
        rcases List.append_eq_append_iff.mp long with ⟨tail, _, reaches⟩ | ⟨tail, longer, _⟩
        · simp [reaches]
        · rw [longer, byteLengthAppend] at starts
          omega
      have found : isBlank blank = true := ended blank (by simp [next])
      rw [solid blank inside] at found
      contradiction
  · exact ⟨more, short⟩

theorem solidInLine {before line after : List Char} (closed : ∀ c ∈ before.getLast?, c = '\n')
    (ended : ∀ c ∈ after.head?, isBlank c = true) {k : Nat} (within : k < byteLength line)
    (spanned : Spanned (before ++ line ++ after) (byteLength before + k) piece) : Spanned line k piece := by
  obtain ⟨front, back, same, first, last⟩ := spanned
  rw [List.append_assoc, List.append_assoc] at same
  obtain ⟨gap, rfl, rest⟩ := solidBehind solid closed same (by omega)
  rw [← List.append_assoc] at rest
  rw [byteLengthAppend] at first last
  obtain ⟨more, whole⟩ := solidBefore solid ended rest (by omega)
  exact ⟨gap, more, whole, by omega, by omega⟩

end Solid

end ShellAtlas.Text
