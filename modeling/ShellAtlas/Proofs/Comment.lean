import ShellAtlas.Proofs.Path
import ShellAtlas.Proofs.Span
import ShellAtlas.Query.Point
/-!
The comment block above a line. A line is a comment if the first character of it that is no blank is the
mark, and on the first line no `!` follows. The block goes up as long as there are comments, so it starts
at the least line from which all are comments, and it says line by line what these say.
-/
namespace ShellAtlas

structure Tells (body text : List Char) : Prop where
  parts : ∃ space right, body = space ++ text ++ right ∧ (∀ c ∈ right, Text.isBlank c = true) ∧
    (space = [' '] ∨ space = [] ∧ body.head? ≠ some ' ')
  ends : ∀ c ∈ text.getLast?, Text.isBlank c = false

namespace Text

theorem trimEndAppend {text right : List Char} (blank : ∀ c ∈ right, isBlank c = true)
    (ends : ∀ c ∈ text.getLast?, isBlank c = false) : trimEnd (text ++ right) = text := by
  have blanks : ∀ c ∈ right.reverse, isBlank c = true := fun c member => blank c (List.mem_reverse.mp member)
  have first : ∀ c ∈ text.reverse.head?, isBlank c = false := by
    rw [List.head?_reverse]
    exact ends
  rw [trimEnd, List.reverse_append, List.dropWhile_append_of_pos blanks, dropBlank first,
    List.reverse_reverse]

end Text

def spoken : List Char → List Char
  | ' ' :: rest => Text.trimEnd rest
  | body => Text.trimEnd body

theorem spokenOther {body : List Char} (other : body.head? ≠ some ' ') : spoken body = Text.trimEnd body := by
  unfold spoken
  split
  · simp at other
  · rfl

theorem spokenIff {body text : List Char} : spoken body = text ↔ Tells body text := by
  constructor
  · intro same
    by_cases spaced : body.head? = some ' '
    · obtain ⟨rest, rfl⟩ := List.head?_eq_some_iff.mp spaced
      obtain ⟨right, whole, blank, ends⟩ := Text.trimEndParts rest
      have said : Text.trimEnd rest = text := same
      rw [said] at whole ends
      exact ⟨⟨[' '], right, by simp [← whole], blank, .inl rfl⟩, ends⟩
    · obtain ⟨right, whole, blank, ends⟩ := Text.trimEndParts body
      rw [← spokenOther spaced, same] at whole ends
      exact ⟨⟨[], right, whole, blank, .inr ⟨rfl, spaced⟩⟩, ends⟩
  · intro tells
    obtain ⟨space, right, rfl, blank, spaced | ⟨none, other⟩⟩ := tells.parts
    · subst spaced
      exact Text.trimEndAppend blank tells.ends
    · rw [spokenOther other, none]
      exact Text.trimEndAppend blank tells.ends

theorem markIff {line body : List Char} :
    Text.trimStart line = '#' :: body ↔
      ∃ blanks, line = blanks ++ '#' :: body ∧ ∀ c ∈ blanks, Text.isBlank c = true := by
  unfold Text.trimStart
  constructor
  · intro marked
    refine ⟨line.takeWhile Text.isBlank, ?_, List.all_eq_true.mp List.all_takeWhile⟩
    rw [← marked, List.takeWhile_append_dropWhile]
  · intro marked
    obtain ⟨blanks, rfl, blank⟩ := marked
    have mark : Text.isBlank '#' = false := by decide
    rw [List.dropWhile_append_of_pos blank, List.dropWhile_cons_of_neg (by simp [mark])]

theorem commentTextMarked {line body : List Char} (marked : Text.trimStart line = '#' :: body) (i : Nat) :
    commentText? line i = if i = 0 ∧ body.head? = some '!' then none else some (spoken body) := by
  unfold commentText?
  rw [marked]
  simp only [Bool.and_eq_true, decide_eq_true_eq]
  split
  · rfl
  · split
    · rfl
    · rename_i other
      refine congrArg some (spokenOther fun spaced => ?_).symm
      obtain ⟨rest, same⟩ := List.head?_eq_some_iff.mp spaced
      exact other rest same

namespace Document

structure Comment (d : Document) (i : Nat) (body : List Char) : Prop where
  marked : ∃ line blanks, d.line? i = some line ∧ line = blanks ++ '#' :: body ∧
    ∀ c ∈ blanks, Text.isBlank c = true
  script : ¬ (i = 0 ∧ body.head? = some '!')

def IsComment (d : Document) (i : Nat) : Prop :=
  ∃ body, d.Comment i body

def comment? (d : Document) (i : Nat) : Option (List Char) :=
  (d.line? i).bind (commentText? · i)

variable {d : Document}

theorem commentIff {i : Nat} {text : List Char} :
    d.comment? i = some text ↔ ∃ body, d.Comment i body ∧ Tells body text := by
  unfold comment?
  constructor
  · intro read
    obtain ⟨line, found, said⟩ := Option.bind_eq_some_iff.mp read
    cases marked : Text.trimStart line with
    | nil => simp [commentText?, marked] at said
    | cons c body =>
      by_cases mark : c = '#'
      · subst mark
        rw [commentTextMarked marked] at said
        split at said
        · contradiction
        · rename_i plain
          obtain ⟨blanks, whole, blank⟩ := markIff.mp marked
          exact ⟨body, ⟨⟨line, blanks, found, whole, blank⟩, plain⟩, spokenIff.mp (Option.some.inj said)⟩
      · simp [commentText?, marked, mark] at said
  · intro comment
    obtain ⟨body, ⟨⟨line, blanks, found, whole, blank⟩, plain⟩, tells⟩ := comment
    have marked := markIff.mpr ⟨blanks, whole, blank⟩
    rw [found, Option.bind_some, commentTextMarked marked, if_neg plain, spokenIff.mpr tells]

theorem isCommentIff {i : Nat} : d.IsComment i ↔ ∃ text, d.comment? i = some text := by
  constructor
  · intro comment
    obtain ⟨body, comment⟩ := comment
    exact ⟨spoken body, commentIff.mpr ⟨body, comment, spokenIff.mp rfl⟩⟩
  · intro read
    obtain ⟨text, read⟩ := read
    obtain ⟨body, comment, _⟩ := commentIff.mp read
    exact ⟨body, comment⟩

theorem silent {i : Nat} (other : ¬ d.IsComment i) : d.comment? i = none := by
  rw [Option.eq_none_iff_forall_ne_some]
  intro text read
  exact other (isCommentIff.mpr ⟨text, read⟩)

theorem saidPlain {i : Nat} {text : List Char} (read : d.comment? i = some text) : '\n' ∉ text := by
  obtain ⟨body, ⟨⟨line, blanks, found, whole, _⟩, _⟩, ⟨⟨space, right, parts, _⟩, _⟩⟩ := commentIff.mp read
  obtain ⟨_, _, _, _, _, plain, _⟩ := Text.lineParts found
  intro newline
  exact plain (by simp [whole, parts, newline])

theorem beforeComment {n : Nat} {text : List Char} (read : d.comment? n = some text) :
    d.commentsBefore (n + 1) = text :: d.commentsBefore n := by
  rw [commentsBefore, ← comment?, read]

theorem beforeSilent {n : Nat} (other : d.comment? n = none) : d.commentsBefore (n + 1) = [] := by
  rw [commentsBefore, ← comment?, other]

theorem beforeNone {n : Nat} : d.commentsBefore n = [] ↔ n = 0 ∨ ¬ d.IsComment (n - 1) := by
  cases n with
  | zero => simp [commentsBefore]
  | succ n =>
    rw [isCommentIff, Nat.add_sub_cancel]
    cases read : d.comment? n with
    | none => simp [beforeSilent read]
    | some text => simp [beforeComment read]

structure Block (d : Document) (k n : Nat) (texts : List (List Char)) : Prop where
  within : k ≤ n
  size : texts.length = n - k
  each : ∀ j text, texts[j]? = some text → d.comment? (k + j) = some text
  first : ∀ i, k = i + 1 → ¬ d.IsComment i

theorem blockBelow {k n : Nat} {texts : List (List Char)} (block : d.Block k n texts) {text : List Char}
    (read : d.comment? n = some text) : d.Block k (n + 1) (texts ++ [text]) where
  within := Nat.le_succ_of_le block.within
  size := by
    have within := block.within
    rw [List.length_append, block.size, List.length_singleton]
    omega
  each := by
    intro j other found
    by_cases early : j < texts.length
    · rw [List.getElem?_append_left early] at found
      exact block.each j other found
    · -- The line added last is the one behind the block.
      rw [List.getElem?_append_right (Nat.le_of_not_lt early)] at found
      obtain ⟨here, rfl⟩ := List.getElem?_eq_some_iff.mp found
      have last : k + j = n := by
        have within := block.within
        have size := block.size
        simp only [List.length_singleton] at here
        omega
      rw [last, read]
      simp
  first := block.first

theorem blockBefore (d : Document) (n : Nat) : ∃ k, d.Block k n (d.commentsBefore n).reverse := by
  induction n with
  | zero => exact ⟨0, Nat.le_refl 0, rfl, by simp [commentsBefore], by simp⟩
  | succ n ih =>
    cases read : d.comment? n with
    | none =>
      rw [beforeSilent read]
      refine ⟨n + 1, Nat.le_refl _, by simp, by simp, ?_⟩
      intro i same comment
      cases Nat.succ.inj same
      obtain ⟨text, other⟩ := isCommentIff.mp comment
      rw [read] at other
      contradiction
    | some text =>
      obtain ⟨k, block⟩ := ih
      rw [beforeComment read, List.reverse_cons]
      exact ⟨k, blockBelow block read⟩

theorem blockLeast {k n : Nat} {texts : List (List Char)} (block : d.Block k n texts) (m : Nat) :
    k ≤ m ↔ ∀ i, m ≤ i → i < n → d.IsComment i := by
  constructor
  · intro later i started before
    have inside : i - k < texts.length := by
      rw [block.size]
      omega
    have read := block.each (i - k) _ (List.getElem?_eq_getElem inside)
    rw [Nat.add_sub_of_le (Nat.le_trans later started)] at read
    exact isCommentIff.mpr ⟨_, read⟩
  · intro all
    refine Decidable.byContradiction fun earlier => ?_
    have within := block.within
    exact block.first (k - 1) (by omega) (all (k - 1) (by omega) (by omega))

theorem blockSplit {k n : Nat} {texts : List (List Char)} (block : d.Block k n texts) (filled : texts ≠ []) :
    (['\n'].intercalate texts).splitOn '\n' = texts := by
  refine List.splitOn_intercalate '\n' ?_ filled
  intro text member
  obtain ⟨j, found⟩ := List.mem_iff_getElem?.mp member
  exact saidPlain (block.each j text found)

theorem aboveIff {n : Nat} {text : List Char} :
    d.commentsAbove? n = some text ↔
      d.commentsBefore n ≠ [] ∧ ['\n'].intercalate (d.commentsBefore n).reverse = text := by
  unfold commentsAbove?
  split
  · rename_i none
    simp [none]
  · rename_i filled
    exact ⟨fun same => ⟨filled, Option.some.inj same⟩, fun both => congrArg some both.2⟩

theorem aboveNone {n : Nat} : d.commentsAbove? n = none ↔ d.commentsBefore n = [] := by
  unfold commentsAbove?
  split
  · rename_i none
    simp [none]
  · rename_i filled
    exact ⟨fun none => (Option.some_ne_none _ none).elim, fun none => (filled none).elim⟩

theorem aboveNext {n : Nat} {text : List Char} (read : d.comment? n = some text) :
    d.commentsAbove? (n + 1) = some (((d.commentsAbove? n).map (· ++ ['\n'])).getD [] ++ text) := by
  rw [aboveIff, beforeComment read, List.reverse_cons]
  refine ⟨by simp, ?_⟩
  cases above : d.commentsAbove? n with
  | none =>
    rw [aboveNone.mp above]
    simp
  | some block =>
    obtain ⟨filled, rfl⟩ := aboveIff.mp above
    rw [Path.intercalateAppend '\n' (by simpa using filled) (by simp), List.intercalate_singleton]
    simp

end Document

namespace Atlas

/- No block is above a line exactly if it is the first line or the line before it is no comment. A block
starts at the least line from which all lines are comments, and it has a line for each of them with what
that one says. So below a comment the block is the one above the comment with the comment's text below. -/
theorem commentsAboveExact {a : Atlas} {uri : String} {d : Document} (entry : a.document? uri = some d)
    (n : Nat) :
    (a.commentsAbove? uri n = none ↔ n = 0 ∨ ¬ d.IsComment (n - 1)) ∧
    (∀ block, a.commentsAbove? uri n = some block →
      ∃ k, (∀ m, k ≤ m ↔ ∀ i, m ≤ i → i < n → d.IsComment i) ∧
        (block.toList.splitOn '\n').length = n - k ∧
        ∀ j, j < n - k → ∃ body text, d.Comment (k + j) body ∧ Tells body text ∧
          (block.toList.splitOn '\n')[j]? = some text) ∧
    (¬ d.IsComment n → a.commentsAbove? uri (n + 1) = none) ∧
    ∀ body text, d.Comment n body → Tells body text →
      a.commentsAbove? uri (n + 1) =
        some (((a.commentsAbove? uri n).map (· ++ "\n")).getD "" ++ String.ofList text) := by
  have asked : ∀ line, a.commentsAbove? uri line = (d.commentsAbove? line).map String.ofList := by
    intro line
    rw [commentsAbove?, entry, Option.bind_some]
  refine ⟨?_, ?_, ?_, ?_⟩
  · rw [asked, Option.map_eq_none_iff, Document.aboveNone, Document.beforeNone]
  · intro block answer
    rw [asked] at answer
    obtain ⟨text, above, rfl⟩ := Option.map_eq_some_iff.mp answer
    obtain ⟨filled, rfl⟩ := Document.aboveIff.mp above
    obtain ⟨k, lines⟩ := d.blockBefore n
    have parts := Document.blockSplit lines (by simpa using filled)
    refine ⟨k, Document.blockLeast lines, ?_, ?_⟩
    · rw [String.toList_ofList, parts, lines.size]
    · intro j inside
      rw [← lines.size] at inside
      have found := List.getElem?_eq_getElem inside
      obtain ⟨body, comment, tells⟩ := Document.commentIff.mp (lines.each j _ found)
      exact ⟨body, _, comment, tells, by rw [String.toList_ofList, parts, found]⟩
  · intro other
    rw [asked, Document.aboveNone.mpr (Document.beforeSilent (Document.silent other))]
    rfl
  · intro body text comment tells
    have read := Document.commentIff.mpr ⟨body, comment, tells⟩
    rw [asked, asked, Document.aboveNext read]
    cases d.commentsAbove? n with
    | none => simp
    | some above => simp [String.append_assoc]

def markedText : String :=
  "#!/bin/sh\n\t# one\r\n#   two \nx=1"

def markedAtlas : Atlas :=
  (empty .standard).analyze (fun _ => .node ⟨"program", true, false, false, false, "", 0, 33⟩ [])
    .empty "file:///a" markedText

def markedDocument : Document :=
  .build (fun _ => .node ⟨"program", true, false, false, false, "", 0, 33⟩ []) .empty "sh"
    "file:///a" markedText

theorem markedAbove :
    markedAtlas.commentsAbove? "file:///a" 3 = some "one\n  two" ∧ ¬ markedDocument.IsComment 0 ∧
    ∀ i, 1 ≤ i → i < 3 → markedDocument.IsComment i := by
  have entry : markedAtlas.document? "file:///a" = some markedDocument := rfl
  have answer : markedAtlas.commentsAbove? "file:///a" 3 = some "one\n  two" := by decide +kernel
  have silent : markedAtlas.commentsAbove? "file:///a" 1 = none := by decide +kernel
  have first : ¬ markedDocument.IsComment 0 :=
    ((commentsAboveExact entry 1).1.mp silent).resolve_left (by decide)
  obtain ⟨k, least, lines, _⟩ := (commentsAboveExact entry 3).2.1 _ answer
  have two : ("one\n  two".toList.splitOn '\n').length = 2 := by decide +kernel
  exact ⟨answer, first, (least 1).mp (by omega)⟩

end Atlas

end ShellAtlas
