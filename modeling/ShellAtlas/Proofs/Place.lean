import ShellAtlas.Command.Run
import ShellAtlas.Proofs.Column
import ShellAtlas.Proofs.Span
import ShellAtlas.Proofs.Utf8
/-!
Places of a document told in UTF-16 units and read back. A place is told by the line that newlines count
and by what stands before it on that line. The line as it is looked up has the same beginning, so both
conversions meet a boundary of it, unless the place is behind a carriage return that the line was cut off
from: then it is told as the place before that one.
-/
namespace ShellAtlas

namespace Text

theorem newlineBytes (cs : List Char) : (bytes cs).count 0x0A = cs.count '\n' := by
  induction cs with
  | nil => rfl
  | cons c cs ih =>
    have first : (String.utf8EncodeChar c).count 0x0A = [c].count '\n' := by
      by_cases newline : c = '\n'
      · rw [newline]
        decide
      · have other : '\n' ∉ [c] := by simpa using Ne.symm newline
        rw [List.count_eq_zero.mpr other, List.count_eq_zero]
        intro byte
        exact other (lowChar (by decide) (by simpa [bytes] using byte))
    rw [bytes, List.flatMap_cons, List.count_append, first, ← bytes, ih, ← List.count_append]
    rfl

theorem takenPlain (cs : List Char) : '\n' ∉ cs.takeWhile (· ≠ '\n') := by
  intro inside
  have kept := List.all_eq_true.mp List.all_takeWhile '\n' inside
  simp at kept

theorem leftEnded (cs : List Char) : ∀ c ∈ (cs.dropWhile (· ≠ '\n')).head?, c = '\n' := by
  intro c first
  have stopped := List.head?_dropWhile_not (· ≠ '\n') cs
  rw [Option.mem_def.mp first] at stopped
  simpa using stopped

def sinceNewline (cs : List Char) : List Char :=
  (cs.reverse.takeWhile (· ≠ '\n')).reverse

theorem sinceParts (cs : List Char) :
    ∃ head, cs = head ++ sinceNewline cs ∧ (∀ c ∈ head.getLast?, c = '\n') ∧
      '\n' ∉ sinceNewline cs := by
  refine ⟨(cs.reverse.dropWhile (· ≠ '\n')).reverse, ?_, ?_, ?_⟩
  · rw [sinceNewline, ← List.reverse_append, List.takeWhile_append_dropWhile, List.reverse_reverse]
  · rw [List.getLast?_reverse]
    exact leftEnded cs.reverse
  · rw [sinceNewline, List.mem_reverse]
    exact takenPlain cs.reverse

theorem sinceBytes (cs : List Char) :
    ((bytes cs).reverse.takeWhile (· ≠ 0x0A)).length = byteLength (sinceNewline cs) := by
  obtain ⟨head, whole, closed, plain⟩ := sinceParts cs
  generalize sinceNewline cs = front at whole plain ⊢
  subst whole
  have solid : ∀ b ∈ (bytes front).reverse, decide (b ≠ 0x0A) = true := by
    intro b member
    refine decide_eq_true fun newline => ?_
    rw [List.mem_reverse, newline] at member
    exact plain (lowChar (by decide) member)
  have stops : (bytes head).reverse.takeWhile (· ≠ 0x0A) = [] := by
    rcases head.eq_nil_or_concat with rfl | ⟨before, last, rfl⟩
    · rfl
    · rw [closed last (by simp), List.concat_eq_append, bytes, List.flatMap_append, List.reverse_append]
      rfl
  rw [bytes, List.flatMap_append, List.reverse_append, ← bytes, ← bytes,
    List.takeWhile_append_of_pos solid, stops, List.append_nil, List.length_reverse, byteLengthBytes]

theorem sinceReturn (cs : List Char) : sinceNewline (cs ++ ['\r']) = sinceNewline cs ++ ['\r'] := by
  simp [sinceNewline]

theorem lineAround (before after : List Char) :
    lineAt? (before ++ after) (before.count '\n') =
      some (dropReturn (sinceNewline before ++ after.takeWhile (· ≠ '\n'))) := by
  obtain ⟨head, whole, closed, plain⟩ := sinceParts before
  generalize sinceNewline before = front at whole plain ⊢
  subst whole
  have row : Row (head ++ front ++ after) ((head ++ front).count '\n') head
      (front ++ after.takeWhile (· ≠ '\n')) (after.dropWhile (· ≠ '\n')) := by
    refine ⟨?_, ?_, closed, ?_, leftEnded after⟩
    · simp [List.takeWhile_append_dropWhile]
    · rw [List.count_append, List.count_eq_zero.mpr plain, Nat.add_zero]
    · rw [List.mem_append, not_or]
      exact ⟨plain, takenPlain after⟩
  rw [lineAt?, rowFound row]
  rfl

def BehindReturn (before after : List Char) : Prop :=
  (∃ front, before = front ++ ['\r']) ∧ ∀ c ∈ after.head?, c = '\n'

theorem dropReturnBehind {front rest : List Char} (filled : rest ≠ []) :
    dropReturn (front ++ rest) = front ++ dropReturn rest := by
  have same : (front ++ rest).getLast? = rest.getLast? := by
    rw [List.getLast?_append, List.getLast?_eq_some_getLast filled, Option.some_or]
  unfold dropReturn
  rw [same]
  split
  · exact List.dropLast_append_of_ne_nil filled
  · rfl

theorem lineFree {before after : List Char} (free : ¬ BehindReturn before after) :
    ∃ back, lineAt? (before ++ after) (before.count '\n') = some (sinceNewline before ++ back) := by
  rw [lineAround]
  by_cases last : after.takeWhile (· ≠ '\n') = []
  · refine ⟨[], ?_⟩
    have ended : ∀ c ∈ after.head?, c = '\n' := by
      have left := leftEnded after
      rwa [← List.nil_append (after.dropWhile _), ← last, List.takeWhile_append_dropWhile] at left
    have kept : (sinceNewline before).getLast? ≠ some '\r' := by
      intro returned
      obtain ⟨front, ends⟩ := List.getLast?_eq_some_iff.mp returned
      obtain ⟨head, whole, _⟩ := sinceParts before
      rw [ends, ← List.append_assoc] at whole
      exact free ⟨⟨head ++ front, whole⟩, ended⟩
    rw [last, List.append_nil, dropReturn, if_neg kept]
  · exact ⟨dropReturn (after.takeWhile (· ≠ '\n')), by rw [dropReturnBehind last]⟩

theorem lineReturned (front : List Char) {after : List Char} (ended : ∀ c ∈ after.head?, c = '\n') :
    lineAt? (front ++ ['\r'] ++ after) ((front ++ ['\r']).count '\n') = some (sinceNewline front) := by
  have last : after.takeWhile (· ≠ '\n') = [] := by
    cases after with
    | nil => rfl
    | cons c after =>
      rw [ended c rfl]
      rfl
  rw [lineAround, last, List.append_nil, sinceReturn, dropReturn, List.getLast?_concat, if_pos rfl,
    List.dropLast_concat]

end Text

theorem Position.ofPlace (before after : List Char) :
    ofOffset (before ++ after) (Text.byteLength before) =
      ⟨before.count '\n', Text.byteLength (Text.sinceNewline before)⟩ := by
  obtain ⟨head, whole, closed, plain⟩ := Text.sinceParts before
  generalize Text.sinceNewline before = front at whole plain ⊢
  subst whole
  rw [List.append_assoc, Text.byteLengthAppend, ofOffsetAppend, ofOffsetColumn plain (Nat.le_refl _),
    behindLines closed, List.count_append, List.count_eq_zero.mpr plain, Nat.add_zero]

theorem Position.ofPlaceWithin (before after : List Char) :
    (ofOffset (before ++ after) (Text.byteLength before)).line ≤ Text.byteLength before ∧
    (ofOffset (before ++ after) (Text.byteLength before)).character ≤ Text.byteLength before := by
  rw [ofPlace, ← Text.newlineBytes, ← Text.sinceBytes, Text.byteLengthBytes]
  constructor
  · exact List.count_le_length
  · have since := (List.takeWhile_sublist (· ≠ 0x0A) (l := (Text.bytes before).reverse)).length_le
    rwa [List.length_reverse] at since

namespace Atlas
open Text

theorem unitsFewer (a : Atlas) (uri : String) (p : Position) :
    (a.toUnits uri p).character ≤ p.character := by
  unfold toUnits
  split
  · exact unitColumnBytes _ _
  · exact Nat.le_refl _

section Entry
variable {a : Atlas} {uri : String} {d : Document} (entry : a.document? uri = some d)
include entry

theorem unitsAt {i : Nat} {front back : List Char} (line : d.line? i = some (front ++ back)) :
    a.toUnits uri ⟨i, byteLength front⟩ = ⟨i, unitLength front⟩ ∧
    a.ofUnits uri ⟨i, unitLength front⟩ = ⟨i, byteLength front⟩ := by
  have found : a.line? uri i = some (front ++ back) := by rw [line?, entry, Option.bind_some, line]
  simp only [toUnits, ofUnits, found, Position.toUnits, Position.ofUnits, unitColumnFront, byteColumnFront,
    and_self]

theorem unitsPast {i k : Nat} {line : List Char} (last : d.line? i = some line) (past : byteLength line ≤ k) :
    a.toUnits uri ⟨i, k⟩ = ⟨i, unitLength line⟩ := by
  have found : a.line? uri i = some line := by rw [line?, entry, Option.bind_some, last]
  simp only [toUnits, found, Position.toUnits, unitColumn, cutWhole past]

theorem placeFree {before after : List Char} (whole : d.text = before ++ after)
    (free : ¬ BehindReturn before after) :
    a.toUnits uri (.ofOffset d.text (byteLength before)) =
      ⟨before.count '\n', unitLength (sinceNewline before)⟩ ∧
    a.ofUnits uri ⟨before.count '\n', unitLength (sinceNewline before)⟩ =
      .ofOffset d.text (byteLength before) := by
  obtain ⟨back, line⟩ := lineFree free
  rw [← whole] at line
  rw [whole, Position.ofPlace]
  exact unitsAt entry line

theorem placeReturned {front after : List Char} (whole : d.text = front ++ ['\r'] ++ after)
    (ended : ∀ c ∈ after.head?, c = '\n') :
    a.toUnits uri (.ofOffset d.text (byteLength (front ++ ['\r']))) =
      ⟨front.count '\n', unitLength (sinceNewline front)⟩ ∧
    a.ofUnits uri ⟨front.count '\n', unitLength (sinceNewline front)⟩ =
      .ofOffset d.text (byteLength front) := by
  have line := lineReturned front ended
  have lines : (front ++ ['\r']).count '\n' = front.count '\n' := by simp
  have past : byteLength (sinceNewline front) ≤ byteLength (sinceNewline (front ++ ['\r'])) := by
    rw [sinceReturn, byteLengthAppend]
    exact Nat.le_add_right _ _
  rw [← whole, lines] at line
  constructor
  · rw [whole, Position.ofPlace, lines]
    exact unitsPast entry line past
  · rw [whole, List.append_assoc, Position.ofPlace]
    rw [← List.append_nil (sinceNewline front)] at line
    exact (unitsAt entry line).2

end Entry

/- Every place between two characters, told in units, keeps its line and counts the units of the line before
it, and read back it is the same place. Only directly behind a carriage return that ends a line is it told as
the place before the return. -/
theorem placesFedBack {a : Atlas} {uri : String} {d : Document} (entry : a.document? uri = some d) :
    (∀ before after, d.text = before ++ after → ∀ p, p = Position.ofOffset d.text (byteLength before) →
      p.line = (bytes before).count 0x0A ∧
      p.character = ((bytes before).reverse.takeWhile (· ≠ 0x0A)).length ∧
      (¬ BehindReturn before after →
        a.toUnits uri p = ⟨p.line, unitLength (sinceNewline before)⟩ ∧
        a.ofUnits uri (a.toUnits uri p) = p) ∧
      (∀ front, before = front ++ ['\r'] → (∀ c ∈ after.head?, c = '\n') →
        a.toUnits uri p = ⟨p.line, unitLength (sinceNewline front)⟩ ∧
        a.ofUnits uri (a.toUnits uri p) = .ofOffset d.text (byteLength front)) ∧
      (byteLength d.text < 0x100000000 →
        p.line < 0x100000000 ∧ p.character < 0x100000000 ∧ (a.toUnits uri p).character < 0x100000000)) ∧
    ∀ v ∈ d.tree.walk, ∀ r, r = v.node.range d.text →
      (∀ before after, d.text = before ++ after → ¬ BehindReturn before after →
        (byteLength before = v.node.label.start → a.ofUnits uri (Command.unitRange a uri r).start = r.start) ∧
        (byteLength before = v.node.label.stop → a.ofUnits uri (Command.unitRange a uri r).stop = r.stop)) := by
  constructor
  · intro before after whole p place
    have counted : p = ⟨before.count '\n', byteLength (sinceNewline before)⟩ := by
      rw [place, whole, Position.ofPlace]
    have line : p.line = before.count '\n' := congrArg Position.line counted
    have column : p.character = byteLength (sinceNewline before) := congrArg Position.character counted
    refine ⟨line.trans (newlineBytes before).symm, column.trans (sinceBytes before).symm,
      fun free => ?_, fun front ends ended => ?_, fun short => ?_⟩
    · obtain ⟨told, read⟩ := placeFree entry whole free
      rw [line, place, told]
      exact ⟨rfl, read⟩
    · subst ends
      obtain ⟨told, read⟩ := placeReturned entry whole ended
      have same : (front ++ ['\r']).count '\n' = front.count '\n' := by simp
      rw [line, place, told, same]
      exact ⟨rfl, read⟩
    · have fits := Position.ofPlaceWithin before after
      have units := unitsFewer a uri p
      rw [← whole, ← place] at fits
      rw [whole, byteLengthAppend] at short
      exact ⟨by omega, by omega, by omega⟩
  · intro v _ r range before after whole free
    subst range
    obtain ⟨told, read⟩ := placeFree entry whole free
    constructor
    · intro start
      rw [Tree.range, ← start, Command.unitRange, told, read]
    · intro stop
      rw [Tree.range, ← stop, Command.unitRange, told, read]

def returnedText : List Char :=
  ['a', 'é', '\r', '\n', '😀', 'b']

def returnedTree : Tree :=
  .node ⟨"program", true, false, false, false, "", 0, 10⟩
    [.node ⟨"word", true, false, false, false, "", 0, 4⟩ [],
      .node ⟨"word", true, false, false, false, "", 5, 9⟩ []]

def returnedAtlas : Atlas :=
  (empty .standard).analyze (fun _ => returnedTree) .empty "file:///a" (String.ofList returnedText)

theorem returnedFedBack :
    returnedAtlas.toUnits "file:///a" ⟨1, 4⟩ = ⟨1, 2⟩ ∧
    returnedAtlas.ofUnits "file:///a" (returnedAtlas.toUnits "file:///a" ⟨1, 4⟩) = ⟨1, 4⟩ ∧
    returnedAtlas.toUnits "file:///a" ⟨0, 4⟩ = ⟨0, 2⟩ ∧
    returnedAtlas.ofUnits "file:///a" (returnedAtlas.toUnits "file:///a" ⟨0, 4⟩) = ⟨0, 3⟩ ∧
    returnedAtlas.ofUnits "file:///a"
      (Command.unitRange returnedAtlas "file:///a" ⟨⟨1, 0⟩, ⟨1, 4⟩⟩).stop = ⟨1, 4⟩ := by
  have entry : returnedAtlas.document? "file:///a" =
      some (.build (fun _ => returnedTree) .empty "sh" "file:///a"
        (String.ofList returnedText)) := rfl
  have text : (Document.build (fun _ => returnedTree) .empty "sh" "file:///a"
      (String.ofList returnedText)).text = returnedText := String.toList_ofList
  have free : ¬ BehindReturn ['a', 'é', '\r', '\n', '😀'] ['b'] :=
    fun behind => absurd (behind.2 'b' rfl) (by decide)
  obtain ⟨places, nodes⟩ := placesFedBack entry
  rw [text] at places nodes
  obtain ⟨_, _, told, _⟩ := places ['a', 'é', '\r', '\n', '😀'] ['b'] rfl ⟨1, 4⟩ (by decide)
  obtain ⟨_, _, _, clamped, _⟩ := places ['a', 'é', '\r'] ['\n', '😀', 'b'] rfl ⟨0, 4⟩ (by decide)
  have ended : ∀ c ∈ ['\n', '😀', 'b'].head?, c = '\n' := fun c first => (Option.some.inj first).symm
  have word :
      ⟨[returnedTree], .node ⟨"word", true, false, false, false, "", 5, 9⟩ []⟩ ∈ returnedTree.walk :=
    List.mem_cons_of_mem _ (List.mem_cons_of_mem _ (List.mem_cons_self ..))
  obtain ⟨_, survives⟩ :=
    nodes _ word ⟨⟨1, 0⟩, ⟨1, 4⟩⟩ (by decide) ['a', 'é', '\r', '\n', '😀'] ['b'] rfl free
  obtain ⟨first, again⟩ := told free
  obtain ⟨last, before⟩ := clamped ['a', 'é'] rfl ended
  exact ⟨first, again, last, before, survives (by decide)⟩

end Atlas

end ShellAtlas
