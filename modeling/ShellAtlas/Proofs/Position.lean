import ShellAtlas.Position
import ShellAtlas.Text.Measure
/-!
Positions and byte offsets. A position keeps the offset that it was made from, and positions stand in
the order of their offsets. What stands in front of a text moves its positions down and to the right.
-/
namespace ShellAtlas

namespace Position

theorem isLEIff {p q : Position} : (compare p q).isLE = true ↔
    p.line < q.line ∨ p.line = q.line ∧ p.character ≤ q.character := by
  have fields : compare p q = (compare p.line q.line).then (compare p.character q.character) := rfl
  rw [fields]
  rcases Nat.lt_trichotomy p.line q.line with less | same | more
  · simp [Nat.compare_eq_lt.mpr less, less]
  · simp [same, Nat.isLE_compare]
  · simp [Nat.compare_eq_gt.mpr more, Nat.lt_asymm more, Nat.ne_of_gt more]

theorem isLTIff {p q : Position} : (compare p q).isLT = true ↔
    p.line < q.line ∨ p.line = q.line ∧ p.character < q.character := by
  have fields : compare p q = (compare p.line q.line).then (compare p.character q.character) := rfl
  rw [fields]
  rcases Nat.lt_trichotomy p.line q.line with less | same | more
  · simp [Nat.compare_eq_lt.mpr less, less]
  · simp [same, Nat.compare_eq_lt]
  · simp [Nat.compare_eq_gt.mpr more, Nat.lt_asymm more, Nat.ne_of_gt more]

theorem comparedSame {p q : Position} : compare p q = .eq ↔ p = q := by
  have fields : compare p q = (compare p.line q.line).then (compare p.character q.character) := rfl
  rw [fields, Ordering.then_eq_eq, Nat.compare_eq_eq, Nat.compare_eq_eq]
  cases p
  cases q
  simp

theorem isLECases {p q : Position} (le : (compare p q).isLE = true) :
    (compare p q).isLT = true ∨ p = q := by
  rw [Ordering.isLE_iff_eq_lt_or_eq_eq, comparedSame] at le
  rwa [Ordering.isLT_iff_eq_lt]

theorem isLTNotLE {p q : Position} : (compare p q).isLT = true ↔ ¬ (compare q p).isLE = true := by
  rw [isLTIff, isLEIff]
  omega

def behind (c : Char) (p : Position) : Position :=
  if c = '\n' then ⟨p.line + 1, p.character⟩
  else if p.line = 0 then ⟨0, c.utf8Size + p.character⟩
  else p

theorem ofOffsetWithin {c : Char} {cs : List Char} {n : Nat} (within : n < c.utf8Size) :
    ofOffset (c :: cs) n = ⟨0, n⟩ := by
  cases n with
  | zero => rfl
  | succ n => simp [ofOffset, Nat.not_le_of_lt within]

theorem ofOffsetBehind {c : Char} {cs : List Char} {n : Nat} (past : c.utf8Size ≤ n) :
    ofOffset (c :: cs) n = behind c (ofOffset cs (n - c.utf8Size)) := by
  cases n with
  | zero => exact absurd past (Nat.not_le_of_lt c.utf8Size_pos)
  | succ n => simp [ofOffset, past, behind]

def offset : List Char → Position → Nat
  | [], p => p.character
  | c :: cs, p =>
    if p.line = 0 then p.character
    else c.utf8Size + offset cs ⟨if c = '\n' then p.line - 1 else p.line, p.character⟩

theorem offsetFirstLine {p : Position} (first : p.line = 0) (cs : List Char) :
    offset cs p = p.character := by
  cases cs <;> simp [offset, first]

theorem offsetBehind (c : Char) (cs : List Char) (p : Position) :
    offset (c :: cs) (behind c p) = c.utf8Size + offset cs p := by
  unfold behind
  split
  · simp [offset, *]
  · split
    · rename_i first
      rw [offsetFirstLine rfl, offsetFirstLine first]
    · simp [offset, *]

theorem offsetOfOffset (cs : List Char) (n : Nat) : offset cs (ofOffset cs n) = n := by
  induction cs generalizing n with
  | nil => rfl
  | cons c cs ih =>
    by_cases past : c.utf8Size ≤ n
    · rw [ofOffsetBehind past, offsetBehind, ih]
      exact Nat.add_sub_of_le past
    · rw [ofOffsetWithin (Nat.lt_of_not_le past), offsetFirstLine rfl]

theorem behindMono (c : Char) {p q : Position} (le : (compare p q).isLE = true) :
    (compare (behind c p) (behind c q)).isLE = true := by
  rw [isLEIff] at le ⊢
  unfold behind
  split
  · exact le.imp Nat.succ_lt_succ (And.imp_left (congrArg Nat.succ))
  · rcases le with above | ⟨same, before⟩
    · have later : q.line ≠ 0 := Nat.ne_zero_of_lt above
      rw [if_neg later]
      split
      · exact .inl (Nat.pos_of_ne_zero later)
      · exact .inl above
    · rw [same]
      split
      · exact .inr ⟨rfl, Nat.add_le_add_left before _⟩
      · exact .inr ⟨same, before⟩

theorem withinFirst {c : Char} {n : Nat} (within : n < c.utf8Size) (p : Position) :
    (compare ⟨0, n⟩ (behind c p)).isLE = true := by
  rw [isLEIff]
  unfold behind
  split
  · exact .inl (Nat.succ_pos _)
  · split
    · exact .inr ⟨rfl, Nat.le_trans (Nat.le_of_lt within) (Nat.le_add_right ..)⟩
    · exact .inl (Nat.pos_of_ne_zero (by assumption))

theorem ofOffsetMono {cs : List Char} {m n : Nat} (le : m ≤ n) :
    (compare (ofOffset cs m) (ofOffset cs n)).isLE = true := by
  induction cs generalizing m n with
  | nil => exact isLEIff.mpr (.inr ⟨rfl, le⟩)
  | cons c cs ih =>
    by_cases first : m < c.utf8Size
    · rw [ofOffsetWithin first]
      by_cases second : n < c.utf8Size
      · rw [ofOffsetWithin second]
        exact isLEIff.mpr (.inr ⟨rfl, le⟩)
      · rw [ofOffsetBehind (Nat.le_of_not_lt second)]
        exact withinFirst first _
    · have past : c.utf8Size ≤ m := Nat.le_of_not_lt first
      rw [ofOffsetBehind past, ofOffsetBehind (Nat.le_trans past le)]
      exact behindMono c (ih (Nat.sub_le_sub_right le _))

theorem ofOffsetLE {cs : List Char} {m n : Nat} :
    (compare (ofOffset cs m) (ofOffset cs n)).isLE = true ↔ m ≤ n := by
  refine ⟨fun le => ?_, ofOffsetMono⟩
  rcases Nat.le_total m n with before | behind
  · exact before
  · have same : ofOffset cs m = ofOffset cs n := by
      have back : (compare (ofOffset cs n) (ofOffset cs m)).isLE = true := ofOffsetMono behind
      rw [isLEIff] at le back
      have line : (ofOffset cs m).line = (ofOffset cs n).line := by omega
      have column : (ofOffset cs m).character = (ofOffset cs n).character := by omega
      calc ofOffset cs m = ⟨(ofOffset cs m).line, (ofOffset cs m).character⟩ := rfl
        _ = ofOffset cs n := by rw [line, column]
    have equal : m = n := by rw [← offsetOfOffset cs m, same, offsetOfOffset]
    exact Nat.le_of_eq equal

theorem ofOffsetLT {cs : List Char} {m n : Nat} :
    (compare (ofOffset cs m) (ofOffset cs n)).isLT = true ↔ m < n := by
  rw [isLTNotLE, ofOffsetLE, Nat.not_le]

theorem ofOffsetAppend (before rest : List Char) (n : Nat) :
    ofOffset (before ++ rest) (Text.byteLength before + n) = before.foldr behind (ofOffset rest n) := by
  induction before with
  | nil => simp [Text.byteLength]
  | cons c before ih =>
    have past : c.utf8Size ≤ Text.byteLength (c :: before) + n := by
      simp only [Text.byteLength]
      omega
    have rest : Text.byteLength (c :: before) + n - c.utf8Size = Text.byteLength before + n := by
      simp only [Text.byteLength]
      omega
    rw [List.cons_append, ofOffsetBehind past, rest, ih, List.foldr_cons]

theorem ofOffsetColumn {line after : List Char} (plain : '\n' ∉ line) {k : Nat}
    (within : k ≤ Text.byteLength line) : ofOffset (line ++ after) k = ⟨0, k⟩ := by
  induction line generalizing k with
  | nil =>
    have start : k = 0 := by simpa [Text.byteLength] using within
    rw [start]
    cases after <;> rfl
  | cons c line ih =>
    simp only [List.mem_cons, not_or] at plain
    by_cases past : c.utf8Size ≤ k
    · have rest : k - c.utf8Size ≤ Text.byteLength line := by
        simp only [Text.byteLength] at within
        omega
      rw [List.cons_append, ofOffsetBehind past, ih plain.2 rest, behind, if_neg (Ne.symm plain.1), if_pos rfl,
        Nat.add_sub_cancel' past]
    · rw [List.cons_append, ofOffsetWithin (Nat.lt_of_not_le past)]

theorem behindLines {before : List Char} (closed : ∀ c ∈ before.getLast?, c = '\n') (k : Nat) :
    before.foldr behind ⟨0, k⟩ = ⟨before.count '\n', k⟩ := by
  induction before with
  | nil => rfl
  | cons c before ih =>
    rcases before.eq_nil_or_concat with rfl | ⟨front, last, rfl⟩
    · have newline : c = '\n' := closed c rfl
      simp [behind, newline]
    · have newline : last = '\n' := closed last (by simp [List.getLast?_cons])
      have further : (front.concat last).count '\n' ≠ 0 := by simp [newline]
      rw [List.foldr_cons, ih (by simp [newline]), List.count_cons, behind]
      generalize (front.concat last).count '\n' = lines at further ⊢
      by_cases here : c = '\n'
      · simp [here]
      · simp [here, further]

end Position

namespace Range

def text? (source : List Char) (r : Range) : Option (List Char) :=
  Text.slice? (r.start.offset source) (r.stop.offset source) source

end Range

end ShellAtlas
