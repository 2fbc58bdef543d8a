import ShellAtlas.Proofs.Reference
import ShellAtlas.Proofs.Span
/-!
Where the word at a position comes from. It is the text of the leaf there without the blanks around it,
or the identifier around the position where that text has blanks inside. A position on the blanks around
the text is still on the leaf, so the word is given there too, although it does not stand there.
-/
namespace ShellAtlas

def Range.Covers (r : Range) (p : Position) : Prop :=
  (compare r.start p).isLE = true ∧ (compare p r.stop).isLT = true

structure LongestRun (before run after : List Char) : Prop where
  inside : ∀ c ∈ run, isIdentifierChar c = true
  first : ∀ c ∈ before.getLast?, isIdentifierChar c = false
  last : ∀ c ∈ after.head?, isIdentifierChar c = false

def RunAround (line : List Char) (column : Nat) (run : List Char) : Prop :=
  ∃ before after, line = before ++ run ++ after ∧ Text.byteLength before ≤ column ∧
    column < Text.byteLength before + Text.byteLength run ∧ LongestRun before run after

theorem runSpanned {line run : List Char} {column : Nat} (around : RunAround line column run) :
    Text.Spanned line column run := by
  obtain ⟨before, after, whole, first, last, _⟩ := around
  exact ⟨before, after, whole, first, last⟩

def IdentifierCode (n : Nat) : Prop :=
  48 ≤ n ∧ n ≤ 57 ∨ 65 ≤ n ∧ n ≤ 90 ∨ 97 ≤ n ∧ n ≤ 122 ∨ n = 95

theorem identifierCharIff {c : Char} : isIdentifierChar c = true ↔ IdentifierCode c.toNat := by
  have value : c.toNat = c.val.toNat := rfl
  have ends : '0'.val.toNat = 48 ∧ '9'.val.toNat = 57 ∧ 'A'.val.toNat = 65 ∧ 'Z'.val.toNat = 90 ∧
      'a'.val.toNat = 97 ∧ 'z'.val.toNat = 122 := by decide
  have line : c = '_' ↔ c.toNat = 95 :=
    ⟨fun same => by rw [same]; rfl, fun same => Char.ext (UInt32.toNat_inj.mp same)⟩
  have classes : c.isAlphanum = (decide ('A'.val ≤ c.val ∧ c.val ≤ 'Z'.val) ||
      decide ('a'.val ≤ c.val) && decide (c.val ≤ 'z'.val) ||
      decide ('0'.val ≤ c.val) && decide (c.val ≤ '9'.val)) := rfl
  simp only [isIdentifierChar, IdentifierCode, classes, line, Bool.or_eq_true, Bool.and_eq_true,
    decide_eq_true_eq, UInt32.le_iff_toNat_le, ends, ← value]
  omega

theorem identifierSolid {c : Char} (identifier : isIdentifierChar c = true) : Text.isBlank c = false := by
  have code := identifierCharIff.mp identifier
  simp only [IdentifierCode] at code
  simp only [Text.isBlank, Text.blankRanges, List.any_cons, List.any_nil, Bool.or_false,
    Bool.or_eq_false_iff, Bool.and_eq_false_iff, decide_eq_false_iff_not]
  omega

theorem runOf (gone : List Char) {line run rest found : List Char} {column n : Nat}
    (whole : line = gone ++ run.reverse ++ rest)
    (place : column = Text.byteLength gone + Text.byteLength run.reverse + n)
    (closed : ∀ c ∈ gone.getLast?, isIdentifierChar c = false)
    (inside : ∀ c ∈ run, isIdentifierChar c = true) (read : identifierRun? run rest n = some found) :
    RunAround line column found := by
  induction rest generalizing gone run n with
  | nil => simp [identifierRun?] at read
  | cons c rest ih =>
    cases n with
    | zero =>
      rw [identifierRun?] at read
      split at read
      · rename_i identifier
        cases Option.some.inj read
        have positive := c.utf8Size_pos
        refine ⟨gone, rest.dropWhile isIdentifierChar, ?_, by omega, ?_, ?_, closed, ?_⟩
        · simp [whole, List.takeWhile_append_dropWhile]
        · simp only [Text.byteLengthAppend, Text.byteLength]
          omega
        · have taken := List.all_eq_true.mp (List.all_takeWhile (p := isIdentifierChar) (l := rest))
          intro d member
          simp only [List.mem_append, List.mem_reverse, List.mem_cons] at member
          rcases member with earlier | rfl | later
          · exact inside d earlier
          · exact identifier
          · exact taken d later
        · intro d next
          have stopped := List.head?_dropWhile_not isIdentifierChar rest
          rw [Option.mem_def.mp next] at stopped
          exact stopped
      · contradiction
    | succ n =>
      rw [identifierRun?] at read
      split at read
      · rename_i past
        by_cases identifier : isIdentifierChar c = true
        · rw [if_pos identifier] at read
          refine ih gone (by simp [whole]) ?_ closed (by simpa [identifier] using inside) read
          simp only [List.reverse_cons, Text.byteLengthAppend, Text.byteLength]
          omega
        · rw [if_neg identifier] at read
          refine ih (gone ++ run.reverse ++ [c]) (by simp [whole]) ?_ (by simpa using identifier)
            (by simp) read
          simp only [List.reverse_nil, Text.byteLengthAppend, Text.byteLength]
          omega
      · contradiction

theorem runRead {line found : List Char} {column : Nat} (read : identifierRun? [] line column = some found) :
    RunAround line column found :=
  runOf [] rfl (Nat.zero_add column).symm (by simp) (by simp) read

namespace Tree

theorem nodeAtWay (source : List Char) (p : Position) (t : Tree) :
    (∃ earlier, Way t earlier (nodeAt source p t)) ∧
    (nodeAt source p t = t ∨ ¬ Behind source p (nodeAt source p t) ∧
      (compare p ((nodeAt source p t).range source).start).isLT = false) := by
  induction t using onChildren with
  | step t ih =>
    rw [nodeAtEq]
    cases found : nodeAmong source p t.children with
    | none => exact ⟨⟨[], .here t⟩, .inl rfl⟩
    | some n =>
      obtain ⟨before, c, after, children, shown, reached, started, rfl⟩ := amongFound found
      obtain ⟨⟨earlier, way⟩, entered⟩ := ih c (by simp [children])
      refine ⟨⟨before ++ earlier, .down children shown way⟩, .inr ?_⟩
      rcases entered with same | deeper
      · rw [Option.getD_some, same]
        exact ⟨reached, started⟩
      · exact deeper

theorem enteredCovers {source : List Char} {p : Position} {t : Tree} (filled : t.text source ≠ [])
    (reached : ¬ Behind source p t) (started : (compare p (t.range source).start).isLT = false) :
    (t.range source).Covers p := by
  have room : (compare (t.range source).start (t.range source).stop).isLT = true :=
    Position.ofOffsetLT.mpr (textFilled filled)
  have apart : (t.range source).start ≠ (t.range source).stop := by
    intro same
    rw [same, Position.isLTIff] at room
    omega
  have first : (compare (t.range source).start p).isLE = true := by
    rw [← Bool.not_eq_true, Position.isLTNotLE] at started
    exact Decidable.not_not.mp started
  refine ⟨first, Position.isLTNotLE.mpr fun le => ?_⟩
  rcases Position.isLECases le with less | same
  · exact reached (.inl less)
  · exact reached (.inr ⟨apart, same⟩)

theorem coveredSpanned {source : List Char} {t : Tree} {offset : Nat}
    (covered : (t.range source).Covers (.ofOffset source offset)) (filled : t.text source ≠ []) :
    Text.Spanned source offset (t.text source) := by
  have start : t.label.start ≤ offset := Position.ofOffsetLE.mp covered.1
  have stop : offset < t.label.stop := Position.ofOffsetLT.mp covered.2
  obtain ⟨before, after, whole, opening, closing⟩ := textParts filled
  exact ⟨before, after, whole, by omega, by omega⟩

theorem solidCovered {source line : List Char} {p : Position} {c : Char} {t : Tree}
    (found : Text.lineAt? source p.line = some line) (char : Text.Spanned line p.character [c])
    (notBlank : Text.isBlank c = false) (covered : (t.range source).Covers p)
    (filled : t.text source ≠ []) (solid : ∀ c ∈ Text.trim (t.text source), Text.isBlank c = false) :
    Text.Spanned line p.character (Text.trim (t.text source)) := by
  obtain ⟨before, after, whole, lines, closed, plain, ended⟩ := Text.lineParts found
  have within : p.character < Text.byteLength line := by
    obtain ⟨front, back, rfl, _, last⟩ := char
    simp only [Text.byteLengthAppend]
    omega
  have place : Position.ofOffset source (Text.byteLength before + p.character) = p := by
    rw [whole, List.append_assoc, Position.ofOffsetAppend,
      Position.ofOffsetColumn plain (Nat.le_of_lt within), Position.behindLines closed, lines]
  have here : Text.Spanned source (Text.byteLength before + p.character) [c] := by
    obtain ⟨front, back, parts, first, last⟩ := char
    refine ⟨before ++ front, back ++ after, by simp [whole, parts], ?_, ?_⟩ <;>
      rw [Text.byteLengthAppend] <;> omega
  rw [← place] at covered
  have inner := Text.trimSpanned (coveredSpanned covered filled) here notBlank
  rw [whole] at inner solid ⊢
  exact Text.solidInLine solid closed ended within inner

end Tree

namespace Document

def SolidAt (d : Document) (p : Position) : Prop :=
  ∃ line c, d.line? p.line = some line ∧ Text.Spanned line p.character [c] ∧ Text.isBlank c = false

def StandsAt (d : Document) (word : List Char) (p : Position) : Prop :=
  ∃ line, d.line? p.line = some line ∧ Text.Spanned line p.character word

structure WordOf (d : Document) (p : Position) (leaf : Tree) (word : List Char) : Prop where
  found : d.tree.nodeAt d.text p = leaf
  bare : leaf.isLeaf = true
  filled : Text.trim (leaf.text d.text) ≠ []
  given : (∀ c ∈ Text.trim (leaf.text d.text), Text.isBlank c = false) ∧ word = Text.trim (leaf.text d.text) ∨
    (∃ c ∈ Text.trim (leaf.text d.text), Text.isBlank c = true) ∧
      ∃ line, d.line? p.line = some line ∧ RunAround line p.character word

theorem wordOf {d : Document} {p : Position} {word : List Char} (answer : d.wordAt? p = some word) :
    ∃ leaf, d.WordOf p leaf word := by
  unfold wordAt? at answer
  simp only at answer
  split at answer
  · contradiction
  · rename_i kept
    simp only [Bool.or_eq_true, Bool.not_eq_true', not_or, Bool.not_eq_false, List.isEmpty_iff] at kept
    split at answer
    · rename_i solid
      refine ⟨_, rfl, kept.1, kept.2, .inl ⟨by simpa using solid, (Option.some.inj answer).symm⟩⟩
    · rename_i blank
      obtain ⟨line, found, read⟩ := Option.bind_eq_some_iff.mp answer
      exact ⟨_, rfl, kept.1, kept.2, .inr ⟨by simpa using blank, line, found, runRead read⟩⟩

theorem leafFilled {d : Document} {p : Position} {leaf : Tree} {word : List Char} (given : d.WordOf p leaf word) :
    leaf.text d.text ≠ [] := by
  intro empty
  have nothing : Text.trim (leaf.text d.text) = [] := by rw [empty]; rfl
  exact given.filled nothing

theorem leafCovers {d : Document} {p : Position} {leaf : Tree} {word : List Char} (given : d.WordOf p leaf word) :
    d.tree = leaf ∨ (leaf.range d.text).Covers p := by
  have entered := (Tree.nodeAtWay d.text p d.tree).2
  rw [given.found] at entered
  rcases entered with root | ⟨reached, started⟩
  · exact .inl root.symm
  · exact .inr (Tree.enteredCovers (leafFilled given) reached started)

theorem wordFilled {d : Document} {p : Position} {leaf : Tree} {word : List Char} (given : d.WordOf p leaf word) :
    word ≠ [] ∧ ∀ c ∈ word, Text.isBlank c = false := by
  rcases given.given with ⟨solid, rfl⟩ | ⟨_, line, _, around⟩
  · exact ⟨given.filled, solid⟩
  · constructor
    · rintro rfl
      obtain ⟨c, member, _⟩ := Text.spannedChar (runSpanned around)
      simp at member
    · obtain ⟨before, after, _, _, _, run⟩ := around
      exact fun c member => identifierSolid (run.inside c member)

theorem solidOfStands {d : Document} {p : Position} {word : List Char}
    (solid : ∀ c ∈ word, Text.isBlank c = false) (stands : d.StandsAt word p) : d.SolidAt p := by
  obtain ⟨line, found, spanned⟩ := stands
  obtain ⟨c, member, char⟩ := Text.spannedChar spanned
  exact ⟨line, c, found, char, solid c member⟩

end Document

namespace Atlas

theorem wordGiven {a : Atlas} {uri : String} {d : Document} (entry : a.document? uri = some d) {p : Position}
    {w : String} (answer : a.wordAt? uri p = some w) : ∃ leaf, d.WordOf p leaf w.toList := by
  rw [wordAt?, entry, Option.bind_some] at answer
  obtain ⟨word, found, rfl⟩ := Option.map_eq_some_iff.mp answer
  rw [String.toList_ofList]
  exact Document.wordOf found

/- A word that is given has characters and no blank among them. It stands at the position exactly where
the position is on a character that is no blank. On the blanks around a leaf's text and past the end of
the line, the word that is given is the leaf's text without them. -/
theorem wordOnSolid {a : Atlas} {uri : String} {d : Document} (entry : a.document? uri = some d)
    {p : Position} {w : String} (answer : a.wordAt? uri p = some w) :
    w ≠ "" ∧ (∀ c ∈ w.toList, Text.isBlank c = false) ∧
    (d.tree.isLeaf = false ∨ (d.tree.range d.text).Covers p → (d.StandsAt w.toList p ↔ d.SolidAt p)) ∧
    (¬ d.SolidAt p → w.toList = Text.trim ((d.tree.nodeAt d.text p).text d.text)) := by
  obtain ⟨leaf, given⟩ := wordGiven entry answer
  obtain ⟨filled, solid⟩ := Document.wordFilled given
  refine ⟨by simpa using filled, solid, fun rooted => ⟨Document.solidOfStands solid, ?_⟩, ?_⟩
  · rintro ⟨line, c, found, char, notBlank⟩
    rcases given.given with ⟨plain, same⟩ | ⟨_, other, there, around⟩
    · have covered : (leaf.range d.text).Covers p := by
        rcases Document.leafCovers given with rfl | covered
        · exact rooted.resolve_left (by simp [given.bare])
        · exact covered
      rw [same]
      exact ⟨line, found, Tree.solidCovered found char notBlank covered (Document.leafFilled given) plain⟩
    · exact ⟨other, there, runSpanned around⟩
  · intro off
    rcases given.given with ⟨_, same⟩ | ⟨_, line, found, around⟩
    · rw [given.found, same]
    · exact absurd (Document.solidOfStands solid ⟨line, found, runSpanned around⟩) off

/- A string whose first part ends in a blank: `y="greet $x tai&&l"` and an empty line. -/
def quoted : Tree :=
  .node ⟨"program", true, false, false, false, "", 0, 21⟩
    [.node ⟨"variable_assignment", true, false, false, false, "", 0, 19⟩
      [.node ⟨"variable_name", true, false, false, false, "name", 0, 1⟩ [],
        .node ⟨"=", false, false, false, false, "", 1, 2⟩ [],
        .node ⟨"string", true, false, false, false, "value", 2, 19⟩
          [.node ⟨"\"", false, false, false, false, "", 2, 3⟩ [],
            .node ⟨"string_content", true, false, false, false, "", 3, 9⟩ [],
            .node ⟨"simple_expansion", true, false, false, false, "", 9, 11⟩
              [.node ⟨"$", false, false, false, false, "", 9, 10⟩ [],
                .node ⟨"variable_name", true, false, false, false, "", 10, 11⟩ []],
            .node ⟨"string_content", true, false, false, false, "", 11, 18⟩ [],
            .node ⟨"\"", false, false, false, false, "", 18, 19⟩ []]]]

def quotedText : String :=
  "y=\"greet $x tai&&l\"\n\n"

def quotedAtlas : Atlas :=
  (empty .standard).analyze (fun _ => quoted) .empty "file:///a" quotedText

def quotedDocument : Document :=
  .build (fun _ => quoted) .empty "sh" "file:///a" quotedText

theorem quotedEntry : quotedAtlas.document? "file:///a" = some quotedDocument := rfl

theorem quotedStanding :
    quotedAtlas.wordAt? "file:///a" ⟨0, 7⟩ = some "greet" ∧
    (quotedDocument.StandsAt "greet".toList ⟨0, 7⟩ ↔ quotedDocument.SolidAt ⟨0, 7⟩) := by
  have answer : quotedAtlas.wordAt? "file:///a" ⟨0, 7⟩ = some "greet" := by decide +kernel
  exact ⟨answer, (wordOnSolid quotedEntry answer).2.2.1 (.inl rfl)⟩

theorem blankAnswered :
    quotedAtlas.document? "file:///a" = some quotedDocument ∧ quotedDocument.tree.Nested ∧
    quotedAtlas.wordAt? "file:///a" ⟨0, 8⟩ = some "greet" ∧
    ¬ quotedDocument.StandsAt "greet".toList ⟨0, 8⟩ := by
  refine ⟨quotedEntry, Tree.nestedOfFits [] (by decide), by decide +kernel, ?_⟩
  rintro ⟨line, found, spanned⟩
  have first : quotedDocument.line? 0 = some "y=\"greet $x tai&&l\"".toList := by decide +kernel
  cases Option.some.inj (first.symm.trans found)
  have blank : Text.Spanned "y=\"greet $x tai&&l\"".toList 8 [' '] :=
    ⟨"y=\"greet".toList, "$x tai&&l\"".toList, by decide, by decide, by decide⟩
  obtain ⟨c, member, char⟩ := Text.spannedChar spanned
  rw [Text.spannedOnce char blank] at member
  exact absurd member (by decide)

/- A word comes from the leaf at the position: it is an occurrence there, or the leaf is a comment, or its
text has blanks inside and the word is the identifier around the position. -/
theorem wordOccurs {a : Atlas} {uri : String} {d : Document} (entry : a.document? uri = some d)
    (rooted : d.tree.isLeaf = false ∨ Text.trim (d.tree.text d.text) = []) {p : Position} {w : String}
    (answer : a.wordAt? uri p = some w) :
    ∃ earlier leaf, d.tree.Way earlier leaf ∧ d.tree.nodeAt d.text p = leaf ∧ leaf.isLeaf = true ∧
      (leaf.range d.text).Covers p ∧
      ((∃ l ∈ a.occurrences uri w, l.range.Covers p) ∨ leaf.isComment = true ∨
        (∃ c ∈ Text.trim (leaf.text d.text), Text.isBlank c = true) ∧
          ∃ line, d.line? p.line = some line ∧ RunAround line p.character w.toList) := by
  obtain ⟨leaf, given⟩ := wordGiven entry answer
  obtain ⟨earlier, way⟩ := (Tree.nodeAtWay d.text p d.tree).1
  rw [given.found] at way
  have covered : (leaf.range d.text).Covers p := by
    rcases Document.leafCovers given with rfl | covered
    · rcases rooted with branches | blank
      · rw [given.bare] at branches
        contradiction
      · exact absurd blank given.filled
    · exact covered
  refine ⟨earlier, leaf, way, given.found, given.bare, covered, ?_⟩
  cases comment : leaf.isComment with
  | true => exact .inr (.inl rfl)
  | false =>
    rcases given.given with ⟨_, same⟩ | run
    · have filled : w ≠ "" := by simpa using (Document.wordFilled given).1
      have used : d.UsedAt w (leaf.range d.text) := ⟨earlier, leaf, way, given.bare, comment, same.symm, rfl⟩
      exact .inl ⟨⟨uri, leaf.range d.text⟩, memOccurrences.mpr ⟨filled, rfl, d, entry, used⟩, covered⟩
    · exact .inr (.inr run)

theorem quotedOccurs :
    quotedAtlas.wordAt? "file:///a" ⟨0, 4⟩ = some "greet" ∧
    ∃ l ∈ quotedAtlas.occurrences "file:///a" "greet", l.range.Covers ⟨0, 4⟩ := by
  have answer : quotedAtlas.wordAt? "file:///a" ⟨0, 4⟩ = some "greet" := by decide +kernel
  obtain ⟨_, leaf, _, found, _, _, given⟩ := wordOccurs quotedEntry (.inl rfl) answer
  rcases given with occurs | comment | ⟨⟨c, member, blank⟩, _⟩
  · exact ⟨answer, occurs⟩
  · have plain : (quotedDocument.tree.nodeAt quotedDocument.text ⟨0, 4⟩).isComment = false := by decide +kernel
    rw [found, comment] at plain
    contradiction
  · have solid : (Text.trim ((quotedDocument.tree.nodeAt quotedDocument.text ⟨0, 4⟩).text
        quotedDocument.text)).any Text.isBlank = false := by decide +kernel
    rw [found, List.any_eq_false] at solid
    exact absurd blank (solid c member)

end Atlas

end ShellAtlas
