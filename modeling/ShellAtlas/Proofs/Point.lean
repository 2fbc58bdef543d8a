import ShellAtlas.Proofs.Span
import ShellAtlas.Query.Point
/-!
The word at a position. The search goes down from the root and enters, at each level, the first row
that the position is not behind. It comes to the leaf that spans the position, except at the leaf's
first column where an empty row stands before it: such a row is entered in its place, and no word is
there.
-/
namespace ShellAtlas

namespace Tree

@[elab_as_elim] theorem onChildren {motive : Tree → Prop}
    (step : ∀ t, (∀ c ∈ t.children, motive c) → motive t) (t : Tree) : motive t := by
  refine step t fun c child => ?_
  have smaller : sizeOf c < sizeOf t := by
    cases t with
    | node l cs =>
      have inside : sizeOf c < sizeOf cs := List.sizeOf_lt_of_mem child
      simp only [node.sizeOf_spec]
      omega
  exact onChildren step c
termination_by t

inductive Packed : Tree → Prop where
  | intro {t : Tree} (forward : t.label.start ≤ t.label.stop)
      (inside : ∀ c ∈ t.children, t.label.start ≤ c.label.start ∧ c.label.stop ≤ t.label.stop)
      (apart : t.children.Pairwise fun a b => a.label.stop ≤ b.label.start)
      (below : ∀ c ∈ t.children, Packed c) : Packed t

/- The way from a tree down to a node of it, with the rows that stand before the node: the earlier
siblings of the node and of its ancestors. -/
inductive Way : Tree → List Tree → Tree → Prop where
  | here (t : Tree) : Way t [] t
  | down {t c leaf : Tree} {before after earlier : List Tree}
      (children : t.children = before ++ c :: after) (shown : c.label.hidden = false)
      (rest : Way c earlier leaf) : Way t (before ++ earlier) leaf

theorem childVisible {t c : Tree} {before after : List Tree} (children : t.children = before ++ c :: after)
    (shown : c.label.hidden = false) : c ∈ t.visible := by
  simp [visible, children, shown]

def StandsAt (source : List Char) (p : Position) (t : Tree) : Prop :=
  t.range source = ⟨p, p⟩
instance (source p t) : Decidable (StandsAt source p t) := by unfold StandsAt; infer_instance

def Behind (source : List Char) (p : Position) (t : Tree) : Prop :=
  (compare (t.range source).stop p).isLT = true ∨
    (t.range source).start ≠ (t.range source).stop ∧ (t.range source).stop = p

section Search
variable {source : List Char} {p : Position}

theorem nodeAtEq (t : Tree) : nodeAt source p t = (nodeAmong source p t.children).getD t := by
  cases t
  rw [nodeAt]
  rfl

theorem amongBehind (before : List Tree) (behind : ∀ b ∈ before, Behind source p b) (rest : List Tree) :
    nodeAmong source p (before ++ rest) = nodeAmong source p rest := by
  induction before with
  | nil => rfl
  | cons b before ih =>
    have first : (compare (range source b).stop p).isLT ||
        (decide ((range source b).start ≠ (range source b).stop) && decide ((range source b).stop = p)) := by
      simpa [Behind] using behind b (List.mem_cons_self ..)
    rw [List.cons_append, nodeAmong, if_pos first]
    exact ih fun x inside => behind x (List.mem_cons_of_mem _ inside)

theorem amongEntered {c : Tree} (reached : ¬ Behind source p c)
    (started : (compare p (c.range source).start).isLT = false) (rest : List Tree) :
    nodeAmong source p (c :: rest) = if c.label.hidden then none else some (nodeAt source p c) := by
  have first : ¬ ((compare (range source c).stop p).isLT ||
      (decide ((range source c).start ≠ (range source c).stop) && decide ((range source c).stop = p))) := by
    simpa [Behind] using reached
  rw [nodeAmong, if_neg first, if_neg (by simp [started])]

theorem standsReached {z : Tree} (stands : StandsAt source p z) :
    ¬ Behind source p z ∧ (compare p (z.range source).start).isLT = false := by
  rw [StandsAt] at stands
  rw [Behind, stands]
  have same : (compare p p).isLT = false := by
    rw [Bool.eq_false_iff]
    intro less
    rw [Position.isLTIff] at less
    omega
  simp [same]

theorem amongStopped {before : List Tree} (each : ∀ b ∈ before, Behind source p b ∨ StandsAt source p b)
    {z : Tree} (member : z ∈ before) (stands : StandsAt source p z) (rest : List Tree) :
    ∃ y ∈ before, StandsAt source p y ∧ nodeAmong source p (before ++ rest) =
      if y.label.hidden then none else some (nodeAt source p y) := by
  induction before with
  | nil => simp at member
  | cons b before ih =>
    by_cases here : StandsAt source p b
    · obtain ⟨reached, started⟩ := standsReached here
      exact ⟨b, List.mem_cons_self .., here, amongEntered reached started _⟩
    · have behind : Behind source p b := (each b (List.mem_cons_self ..)).resolve_right here
      have later : z ∈ before := by
        rcases List.mem_cons.mp member with rfl | later
        · exact absurd stands here
        · exact later
      obtain ⟨y, inside, there, found⟩ := ih (fun x within => each x (List.mem_cons_of_mem _ within)) later
      refine ⟨y, List.mem_cons_of_mem _ inside, there, ?_⟩
      rw [← found]
      exact amongBehind [b] (by simpa using behind) (before ++ rest)

theorem amongFound {cs : List Tree} {n : Tree} (found : nodeAmong source p cs = some n) :
    ∃ before c after, cs = before ++ c :: after ∧ c.label.hidden = false ∧ ¬ Behind source p c ∧
      (compare p (c.range source).start).isLT = false ∧ n = nodeAt source p c := by
  induction cs with
  | nil => simp [nodeAmong] at found
  | cons c cs ih =>
    rw [nodeAmong] at found
    split at found
    · obtain ⟨before, x, after, whole, rest⟩ := ih found
      exact ⟨c :: before, x, after, by rw [whole, List.cons_append], rest⟩
    · rename_i reached
      split at found
      · contradiction
      · rename_i started
        split at found
        · contradiction
        · rename_i shown
          exact ⟨[], c, cs, rfl, by simpa using shown, by simpa [Behind] using reached,
            Bool.eq_false_iff.mpr started, (Option.some.inj found).symm⟩

theorem nodeAtInside (source : List Char) (p : Position) {t : Tree} (packed : t.Packed) :
    t.label.start ≤ (nodeAt source p t).label.start ∧
    (nodeAt source p t).label.start ≤ (nodeAt source p t).label.stop ∧
    (nodeAt source p t).label.stop ≤ t.label.stop := by
  induction packed with
  | @intro t forward inside apart below ih =>
    rw [nodeAtEq]
    cases found : nodeAmong source p t.children with
    | none => exact ⟨Nat.le_refl _, forward, Nat.le_refl _⟩
    | some n =>
      obtain ⟨before, c, after, children, _, _, _, rfl⟩ := amongFound found
      have child : c ∈ t.children := by simp [children]
      obtain ⟨first, last⟩ := inside c child
      obtain ⟨starts, runs, stops⟩ := ih c child
      exact ⟨Nat.le_trans first starts, runs, Nat.le_trans stops last⟩

theorem leafStays {t : Tree} (leaf : t.isLeaf = true) : nodeAt source p t = t := by
  rw [nodeAtEq]
  cases found : nodeAmong source p t.children with
  | none => rfl
  | some n =>
    obtain ⟨before, c, after, children, shown, _⟩ := amongFound found
    have none : ∀ c ∈ t.children, c.label.hidden = true := by
      simpa [isLeaf, visible] using leaf
    rw [none c (by simp [children])] at shown
    contradiction

end Search

theorem wayInside {t leaf : Tree} {earlier : List Tree} (way : Way t earlier leaf) (packed : t.Packed) :
    t.label.start ≤ leaf.label.start ∧ leaf.label.stop ≤ t.label.stop ∧
    ∀ z ∈ earlier, z.label.stop ≤ leaf.label.start := by
  induction way with
  | here t => exact ⟨Nat.le_refl _, Nat.le_refl _, by simp⟩
  | @down t c leaf before after earlier children shown rest ih =>
    cases packed with
    | intro forward inside apart below =>
      have child : c ∈ t.children := by simp [children]
      obtain ⟨starts, stops, passed⟩ := ih (below c child)
      obtain ⟨first, last⟩ := inside c child
      refine ⟨Nat.le_trans first starts, Nat.le_trans stops last, ?_⟩
      intro z member
      rcases List.mem_append.mp member with sibling | deeper
      · rw [children, List.pairwise_append] at apart
        exact Nat.le_trans (apart.2.2 z sibling c (List.mem_cons_self ..)) starts
      · exact passed z deeper

section Around
variable {source : List Char} {leaf : Tree} {line start stop column : Nat}
  (spans : leaf.range source = ⟨⟨line, start⟩, ⟨line, stop⟩⟩) (first : start ≤ column)
  (last : column < stop)
include spans first last

theorem spannedReached {t : Tree} (starts : t.label.start ≤ leaf.label.start)
    (stops : leaf.label.stop ≤ t.label.stop) :
    ¬ Behind source ⟨line, column⟩ t ∧
    (compare ⟨line, column⟩ (t.range source).start).isLT = false := by
  have opening : (compare (t.range source).start (leaf.range source).start).isLE = true :=
    Position.ofOffsetMono starts
  have closing : (compare (leaf.range source).stop (t.range source).stop).isLE = true :=
    Position.ofOffsetMono stops
  rw [spans, Position.isLEIff] at opening closing
  simp only at opening closing
  constructor
  · rintro (less | ⟨_, same⟩)
    · rw [Position.isLTIff] at less
      simp only at less
      omega
    · rw [same] at closing
      simp only at closing
      omega
  · rw [Bool.eq_false_iff]
    intro less
    rw [Position.isLTIff] at less
    simp only at less
    omega

theorem earlierPassed {b : Tree} (before : b.label.stop ≤ leaf.label.start) :
    Behind source ⟨line, column⟩ b ∨ StandsAt source ⟨line, column⟩ b := by
  have closing : (compare (b.range source).stop (leaf.range source).start).isLE = true :=
    Position.ofOffsetMono before
  rw [spans, Position.isLEIff] at closing
  rw [Behind, StandsAt]
  generalize b.range source = r at closing ⊢
  obtain ⟨front, ⟨row, place⟩⟩ := r
  simp only [Position.isLTIff, Position.mk.injEq, Range.mk.injEq] at closing ⊢
  by_cases there : row = line ∧ place = column
  · obtain ⟨rfl, rfl⟩ := there
    by_cases empty : front = ⟨row, place⟩
    · exact .inr ⟨empty, rfl, rfl⟩
    · exact .inl (.inr ⟨empty, rfl, rfl⟩)
  · exact .inl (.inl (by omega))

omit last in
theorem earlierFirst {z : Tree} (before : z.label.stop ≤ leaf.label.start)
    (stands : StandsAt source ⟨line, column⟩ z) : column = start := by
  have closing : (compare (z.range source).stop (leaf.range source).start).isLE = true :=
    Position.ofOffsetMono before
  rw [spans, Position.isLEIff, stands] at closing
  simp only at closing
  omega

theorem siblingsPassed {t c : Tree} {before after earlier : List Tree} (packed : t.Packed)
    (children : t.children = before ++ c :: after) (rest : Way c earlier leaf) :
    c.Packed ∧ (∀ b ∈ before, Behind source ⟨line, column⟩ b ∨ StandsAt source ⟨line, column⟩ b) ∧
    ¬ Behind source ⟨line, column⟩ c ∧
    (compare ⟨line, column⟩ (c.range source).start).isLT = false := by
  cases packed with
  | intro forward inside apart below =>
    have inner : c.Packed := below c (by simp [children])
    obtain ⟨starts, stops, _⟩ := wayInside rest inner
    refine ⟨inner, ?_, spannedReached spans first last starts stops⟩
    intro b sibling
    rw [children, List.pairwise_append] at apart
    exact earlierPassed spans first last
      (Nat.le_trans (apart.2.2 b sibling c (List.mem_cons_self ..)) starts)

theorem wayClear {t : Tree} {earlier : List Tree} (way : Way t earlier leaf) (packed : t.Packed)
    (clear : ∀ z ∈ earlier, ¬ StandsAt source ⟨line, column⟩ z) :
    nodeAt source ⟨line, column⟩ t = nodeAt source ⟨line, column⟩ leaf := by
  induction way with
  | here t => rfl
  | @down t c leaf before after earlier children shown rest ih =>
    obtain ⟨inner, passed, reached, started⟩ := siblingsPassed spans first last packed children rest
    have behind : ∀ b ∈ before, Behind source ⟨line, column⟩ b := fun b sibling =>
      (passed b sibling).resolve_right (clear b (List.mem_append_left _ sibling))
    rw [nodeAtEq, children, amongBehind before behind, amongEntered reached started, shown]
    exact ih spans inner fun z deeper => clear z (List.mem_append_right _ deeper)

omit spans first last in
theorem standsEmpty {p : Position} {z : Tree} (packed : z.Packed) (stands : StandsAt source p z) :
    (nodeAt source p z).label.start = (nodeAt source p z).label.stop := by
  have offsets : z.label.start = z.label.stop := by
    rw [← Position.offsetOfOffset source z.label.start, ← Position.offsetOfOffset source z.label.stop]
    have ends : (z.range source).start = (z.range source).stop := by rw [stands]
    exact congrArg (Position.offset source) ends
  have inside := nodeAtInside source p packed
  omega

theorem wayStopped {t : Tree} {earlier : List Tree} (way : Way t earlier leaf) (packed : t.Packed)
    {z : Tree} (member : z ∈ earlier) (stands : StandsAt source ⟨line, column⟩ z) :
    (nodeAt source ⟨line, column⟩ t).isLeaf = false ∨
    (nodeAt source ⟨line, column⟩ t).label.start = (nodeAt source ⟨line, column⟩ t).label.stop := by
  induction way with
  | here t => simp at member
  | @down t c leaf before after earlier children shown rest ih =>
    obtain ⟨inner, passed, reached, started⟩ := siblingsPassed spans first last packed children rest
    by_cases among : ∃ y ∈ before, StandsAt source ⟨line, column⟩ y
    · obtain ⟨y, sibling, here⟩ := among
      obtain ⟨x, within, there, found⟩ := amongStopped passed sibling here (c :: after)
      rw [nodeAtEq, children, found]
      cases hidden : x.label.hidden with
      | true =>
        left
        simpa [isLeaf] using List.ne_nil_of_mem (childVisible children shown)
      | false =>
        right
        cases packed with
        | intro _ _ _ below =>
          exact standsEmpty (below x (by simp [children, within])) there
    · have behind : ∀ b ∈ before, Behind source ⟨line, column⟩ b := fun b sibling =>
        (passed b sibling).resolve_right fun here => among ⟨b, sibling, here⟩
      have deeper : z ∈ earlier := by
        rcases List.mem_append.mp member with sibling | deeper
        · exact absurd ⟨z, sibling, stands⟩ among
        · exact deeper
      rw [nodeAtEq, children, amongBehind before behind, amongEntered reached started, shown]
      exact ih spans inner deeper

end Around

theorem emptyText {t : Tree} (empty : t.label.start = t.label.stop) (source : List Char) :
    t.text source = [] := by
  rw [text, Text.slice?, empty, if_pos (Nat.le_refl _), Nat.sub_self]
  cases Text.dropBytes? t.label.stop source with
  | none => rfl
  | some rest => simp [Text.takeBytes?]

end Tree

namespace Document

theorem wordless {d : Document} {p : Position}
    (stopped : (d.tree.nodeAt d.text p).isLeaf = false ∨
      (d.tree.nodeAt d.text p).label.start = (d.tree.nodeAt d.text p).label.stop) :
    d.wordAt? p = none := by
  rw [wordAt?]
  rcases stopped with branches | empty
  · simp [branches]
  · have nothing : Text.trim [] = [] := rfl
    simp [Tree.emptyText empty, nothing]

theorem wordOfLeaf {d : Document} {p : Position} {leaf : Tree} (found : d.tree.nodeAt d.text p = leaf)
    (bare : leaf.isLeaf = true) (filled : leaf.text d.text ≠ [])
    (solid : ∀ c ∈ leaf.text d.text, Text.isBlank c = false) :
    d.wordAt? p = some (leaf.text d.text) := by
  have plain : (leaf.text d.text).any Text.isBlank = false := by simpa using solid
  simp [wordAt?, found, bare, Text.trimSolid solid, filled, plain]

end Document

namespace Atlas

/- A leaf with a text without blanks on one line is the word at each of its columns. The one
exception is its first column where an empty row, a missing or a hidden token, stands there before
it, beside it or beside one of its ancestors. -/
theorem wordSpanned {a : Atlas} {uri : String} {d : Document} (entry : a.document? uri = some d)
    (packed : d.tree.Packed) {earlier : List Tree} {leaf : Tree} (way : d.tree.Way earlier leaf)
    (bare : leaf.isLeaf = true) (filled : leaf.text d.text ≠ [])
    (solid : ∀ c ∈ leaf.text d.text, Text.isBlank c = false) {line start stop : Nat}
    (spans : leaf.range d.text = ⟨⟨line, start⟩, ⟨line, stop⟩⟩) {column : Nat} (first : start ≤ column)
    (last : column < stop) :
    a.wordAt? uri ⟨line, column⟩ =
      if column = start ∧ ∃ z ∈ earlier, z.range d.text = ⟨⟨line, start⟩, ⟨line, start⟩⟩ then none
      else some (String.ofList (leaf.text d.text)) := by
  rw [wordAt?, entry, Option.bind_some]
  split
  · rename_i blocked
    obtain ⟨rfl, z, before, stands⟩ := blocked
    rw [Document.wordless (Tree.wayStopped spans first last way packed before stands)]
    rfl
  · rename_i free
    have clear : ∀ z ∈ earlier, ¬ Tree.StandsAt d.text ⟨line, column⟩ z := by
      intro z before stands
      have ends := (Tree.wayInside way packed).2.2 z before
      have same := Tree.earlierFirst spans first ends stands
      subst same
      exact free ⟨rfl, z, before, stands⟩
    have found : d.tree.nodeAt d.text ⟨line, column⟩ = leaf := by
      rw [Tree.wayClear spans first last way packed clear, Tree.leafStays bare]
    rw [Document.wordOfLeaf found bare filled solid]
    rfl

def joined : Tree :=
  .node ⟨"word", true, false, false, false, "argument", 2, 5⟩ []

def beforeJoined : List Tree :=
  [.node ⟨"command_name", true, false, false, false, "name", 0, 1⟩ [],
    .node ⟨"_concat", false, false, false, true, "", 2, 2⟩ []]

def joinedTree : Tree :=
  .node ⟨"program", true, false, false, false, "", 0, 5⟩ (beforeJoined ++ [joined])

def joinedAtlas : Atlas :=
  (empty .standard).analyze (fun _ => joinedTree) .empty "file:///a" "a bcd"

theorem joinedPacked : joinedTree.Packed := by
  have leaf : ∀ l : Label, l.start ≤ l.stop → (Tree.node l []).Packed := fun l forward =>
    .intro forward (by simp [Tree.children]) (by simp [Tree.children]) (by simp [Tree.children])
  refine .intro (by decide) (by decide) (by decide) ?_
  intro c member
  simp only [joinedTree, beforeJoined, joined, Tree.children, List.cons_append, List.nil_append,
    List.mem_cons, List.not_mem_nil, or_false] at member
  rcases member with rfl | rfl | rfl <;> exact leaf _ (by decide)

theorem joinedSpanned :
    joinedAtlas.wordAt? "file:///a" ⟨0, 2⟩ = none ∧
    joinedAtlas.wordAt? "file:///a" ⟨0, 3⟩ = some "bcd" := by
  have entry : joinedAtlas.document? "file:///a" =
      some (.build (fun _ => joinedTree) .empty "sh" "file:///a" "a bcd") := rfl
  have way : joinedTree.Way (beforeJoined ++ []) joined := .down rfl rfl (.here joined)
  have spans : joined.range "a bcd".toList = ⟨⟨0, 2⟩, ⟨0, 5⟩⟩ := by decide
  have text : joined.text "a bcd".toList = ['b', 'c', 'd'] := by decide
  have plain : ['b', 'c', 'd'].all (!Text.isBlank ·) = true := by decide
  have solid : ∀ c ∈ joined.text "a bcd".toList, Text.isBlank c = false := by
    rw [text]
    simpa using plain
  constructor
  · exact (wordSpanned entry joinedPacked way rfl (by decide) solid spans (by decide)
      (by decide)).trans (by decide)
  · exact (wordSpanned entry joinedPacked way rfl (by decide) solid spans (by decide)
      (by decide)).trans (by decide)

end Atlas

end ShellAtlas
