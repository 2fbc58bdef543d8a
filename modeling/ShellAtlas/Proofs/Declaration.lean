import ShellAtlas.Proofs.Word
/-!
Whether the name of a symbol is found where the symbol is declared. A declaration takes its name from the
text of a child, and a search takes tokens and drops the blanks around them. So a name is found if its child
is a token whose text has no blanks around it. A child with tokens of its own, as the place in an array has
them, is not found as a whole: then only another token of the declaration can read as the name.
-/
namespace ShellAtlas

def Range.Within (r outer : Range) : Prop :=
  (compare outer.start r.start).isLE = true ∧ (compare r.stop outer.stop).isLE = true

namespace Tree

/- The child that names a declaration, as the grammar of the shell has it: a variable, a place in an array
with tokens of its own, or for a function a word. -/
def isDeclaring (t : Tree) : Bool :=
  match t.category, t.namedChildren.head? with
  | .assignment, some name =>
    name.kind = "variable_name" && name.isLeaf || name.kind = "subscript" && !name.isLeaf
  | .functionDefinition, some name => name.kind = "word" && name.isLeaf
  | _, _ => true

def Grammatical (t : Tree) : Prop :=
  ∀ v ∈ t.walk, v.node.isDeclaring = true

theorem wayOn {t n m : Tree} {earlier later : List Tree} (way : Way t earlier n) (on : Way n later m) :
    Way t (earlier ++ later) m := by
  induction way with
  | here t => exact on
  | @down t c n before after earlier children shown rest ih =>
    rw [List.append_assoc]
    exact .down children shown (ih on)

theorem wayVisible {t c : Tree} (child : c ∈ t.visible) : ∃ earlier, Way t earlier c := by
  obtain ⟨member, shown⟩ := List.mem_filter.mp child
  obtain ⟨before, after, children⟩ := List.append_of_mem member
  exact ⟨before ++ [], .down children (by simpa using shown) (.here c)⟩

theorem nestedOn {t n : Tree} {earlier : List Tree} (way : Way t earlier n) (nested : t.Nested) : n.Nested := by
  induction way with
  | here t => exact nested
  | @down t c n before after earlier children shown rest ih =>
    exact ih (nestedVisible nested (childVisible children shown))

theorem wayBounds {t n : Tree} {earlier : List Tree} (way : Way t earlier n) (nested : t.Nested) :
    t.label.start ≤ n.label.start ∧ n.label.stop ≤ t.label.stop := by
  obtain ⟨v, met, rfl⟩ := metOfWay way []
  obtain ⟨starts, _, stops⟩ := visitsInside nested met
  exact ⟨starts, stops⟩

theorem waysOrdered {t c d x y : Tree} {before between after left right : List Tree} (nested : t.Nested)
    (children : t.children = before ++ c :: (between ++ d :: after)) (shown : c.label.hidden = false)
    (other : d.label.hidden = false) (first : Way c left x) (second : Way d right y) :
    x.label.stop ≤ y.label.start := by
  cases nested with
  | intro forward inside apart below =>
    have visibles : t.visible = before.filter (fun c => !c.label.hidden) ++
        c :: (between.filter (fun c => !c.label.hidden) ++ d :: after.filter (fun c => !c.label.hidden)) := by
      simp [visible, children, shown, other]
    have order : c.label.stop ≤ d.label.start := by
      rw [visibles, List.pairwise_append, List.pairwise_cons] at apart
      exact apart.2.1.1 d (by simp)
    have stops := (wayBounds first (below c (by simp [visibles]))).2
    have starts := (wayBounds second (below d (by simp [visibles]))).1
    omega

theorem waysApart {t x y : Tree} {left right : List Tree} (nested : t.Nested) (first : Way t left x)
    (second : Way t right y) :
    (∃ between, Way x between y) ∨ (∃ between, Way y between x) ∨ x.label.stop ≤ y.label.start ∨
      y.label.stop ≤ x.label.start := by
  induction first generalizing right with
  | here t => exact .inl ⟨right, second⟩
  | @down t c x before after earlier children shown rest ih =>
    cases second with
    | here => exact .inr (.inl ⟨_, .down children shown rest⟩)
    | @down _ d _ front back sooner others visible on =>
      rw [others] at children
      rcases List.append_eq_append_iff.mp children with ⟨gap, longer, same⟩ | ⟨gap, longer, same⟩
      · cases gap with
        | nil =>
          obtain ⟨rfl, _⟩ := List.cons.inj same
          exact ih (nestedVisible nested (childVisible others visible)) on
        | cons g gap =>
          obtain ⟨rfl, rfl⟩ := List.cons.inj same
          exact .inr (.inr (.inr (waysOrdered nested others visible shown on rest)))
      · cases gap with
        | nil =>
          obtain ⟨rfl, _⟩ := List.cons.inj same
          exact ih (nestedVisible nested (childVisible others visible)) on
        | cons g gap =>
          obtain ⟨rfl, rfl⟩ := List.cons.inj same
          rw [longer, List.append_assoc, List.cons_append] at others
          exact .inr (.inr (.inl (waysOrdered nested others shown visible rest on)))

theorem textLength {t : Tree} {source : List Char} (filled : t.text source ≠ []) :
    Text.byteLength (t.text source) = t.label.stop - t.label.start := by
  obtain ⟨before, after, _, opening, closing⟩ := textParts filled
  omega

theorem leafWay {t n : Tree} {between : List Tree} (bare : t.isLeaf = true) (way : Way t between n) : n = t := by
  cases way with
  | here => rfl
  | @down _ c _ before after earlier children shown rest =>
    simp [isLeaf, visible, children, shown] at bare

theorem shorterRead {source : List Char} {name token : Tree} {between : List Tree} (nested : name.Nested)
    (branches : name.isLeaf = false)
    (shorter : ∀ c ∈ name.visible, c.label.stop - c.label.start < name.label.stop - name.label.start)
    (filled : name.text source ≠ []) (way : Way name between token) (bare : token.isLeaf = true) :
    Text.trim (token.text source) ≠ name.text source := by
  intro reads
  cases way with
  | here =>
    rw [bare] at branches
    contradiction
  | @down _ c _ before after earlier children shown rest =>
    have child : c ∈ name.visible := childVisible children shown
    have less := shorter c child
    have bounds := wayBounds rest (nestedVisible nested child)
    have some : token.text source ≠ [] := by
      intro empty
      rw [empty] at reads
      exact filled reads.symm
    have length := Text.trimLength (token.text source)
    rw [reads, textLength filled, textLength some] at length
    omega

end Tree

structure Document.Declares (d : Document) (v : Visit) (name : Tree) (s : DeclaredSymbol) : Prop where
  met : v ∈ d.tree.walk
  declared : symbol? s.uri d.text v = some s
  first : v.node.namedChildren.head? = some name
  spelled : name.text d.text = s.name.toList
  placed : s.range = v.node.range d.text
  filled : s.name ≠ ""

theorem symbolNamed {uri : String} {source : List Char} {v : Visit} {s : DeclaredSymbol}
    (found : symbol? uri source v = some s) :
    ∃ name, v.node.namedChildren.head? = some name ∧ name.text source = s.name.toList := by
  obtain ⟨kind, declared⟩ := symbolDeclared found
  obtain ⟨text, read, rfl⟩ := Option.map_eq_some_iff.mp declared
  obtain ⟨name, first, rfl⟩ := Option.map_eq_some_iff.mp (Option.filter_eq_some_iff.mp read).1
  exact ⟨name, first, String.toList_ofList.symm⟩

namespace Atlas

def Finds (a : Atlas) (s : DeclaredSymbol) : Prop :=
  ∃ l ∈ a.occurrences s.uri s.name, l ∈ a.references s.name ∧ l.range.Within s.range

theorem findsIff {a : Atlas} {d : Document} {s : DeclaredSymbol} (entry : a.document? s.uri = some d)
    (filled : s.name ≠ "") : a.Finds s ↔ ∃ r, d.UsedAt s.name r ∧ r.Within s.range := by
  constructor
  · rintro ⟨l, member, _, within⟩
    obtain ⟨_, _, e, known, used⟩ := memOccurrences.mp member
    cases Option.some.inj (entry.symm.trans known)
    exact ⟨l.range, used, within⟩
  · rintro ⟨r, used, within⟩
    exact ⟨⟨s.uri, r⟩, memOccurrences.mpr ⟨filled, rfl, d, entry, used⟩,
      memReferences.mpr ⟨filled, d, entry, used⟩, within⟩

end Atlas

namespace Document

section Named
variable {d : Document} {v : Visit} {name : Tree} {s : DeclaredSymbol}

theorem nameVisible (declares : d.Declares v name s) : name ∈ v.node.visible :=
  (List.mem_filter.mp (List.mem_of_mem_head? declares.first)).1

theorem nameWay (declares : d.Declares v name s) : ∃ earlier, d.tree.Way earlier name := by
  obtain ⟨earlier, way⟩ := Tree.wayOfMet declares.met
  obtain ⟨later, on⟩ := Tree.wayVisible (nameVisible declares)
  exact ⟨earlier ++ later, Tree.wayOn way on⟩

theorem nameWithin (declares : d.Declares v name s) (nested : d.tree.Nested) :
    (name.range d.text).Within s.range := by
  obtain ⟨earlier, way⟩ := Tree.wayOfMet declares.met
  cases Tree.nestedOn way nested with
  | intro forward inside apart below =>
    obtain ⟨starts, stops⟩ := inside name (nameVisible declares)
    rw [declares.placed]
    exact ⟨Position.ofOffsetMono starts, Position.ofOffsetMono stops⟩

theorem namePlain (declares : d.Declares v name s) (grammatical : d.tree.Grammatical)
    (bare : name.isLeaf = true) : name.isComment = false := by
  have shape := grammatical v declares.met
  have declared := declares.declared
  unfold Tree.isDeclaring at shape
  unfold symbol? at declared
  rw [declares.first] at shape
  cases category : v.node.category with
  | assignment =>
    simp only [category, bare, Bool.not_true, Bool.and_false, Bool.or_false, Bool.and_true, decide_eq_true_eq] at shape
    simp [Tree.isComment, shape]
  | functionDefinition =>
    simp only [category, bare, Bool.and_true, decide_eq_true_eq] at shape
    simp [Tree.isComment, shape]
  | command => simp [category] at declared
  | error => simp [category] at declared
  | missing => simp [category] at declared
  | other => simp [category] at declared

section Found
variable {a : Atlas} (entry : a.document? s.uri = some d) (declares : d.Declares v name s)
  (nested : d.tree.Nested)
include entry declares nested

theorem tokenFound (grammatical : d.tree.Grammatical) (bare : name.isLeaf = true) :
    a.Finds s ↔ Text.trim s.name.toList = s.name.toList := by
  rw [Atlas.findsIff entry declares.filled]
  constructor
  · rintro ⟨r, ⟨_, token, _, _, _, reads, _⟩, _⟩
    rw [← reads, Text.trimTrim]
  · intro trimmed
    obtain ⟨earlier, way⟩ := nameWay declares
    have reads : Text.trim (name.text d.text) = s.name.toList := by rw [declares.spelled, trimmed]
    exact ⟨name.range d.text, ⟨earlier, name, way, bare, namePlain declares grammatical bare, reads, rfl⟩,
      nameWithin declares nested⟩

theorem branchFound (branches : name.isLeaf = false)
    (shorter : ∀ c ∈ name.visible, c.label.stop - c.label.start < name.label.stop - name.label.start) :
    a.Finds s ↔ ∃ r, d.UsedAt s.name r ∧ r.Within s.range ∧
      ((compare r.stop (name.range d.text).start).isLE = true ∨
        (compare (name.range d.text).stop r.start).isLE = true) := by
  rw [Atlas.findsIff entry declares.filled]
  constructor
  · rintro ⟨r, used, within⟩
    refine ⟨r, used, within, ?_⟩
    obtain ⟨sooner, token, there, bare, _, reads, rfl⟩ := used
    obtain ⟨earlier, way⟩ := nameWay declares
    rcases Tree.waysApart nested there way with ⟨_, on⟩ | ⟨_, on⟩ | before | behind
    · rw [Tree.leafWay bare on, bare] at branches
      contradiction
    · have filled : name.text d.text ≠ [] := by
        rw [declares.spelled]
        simpa using declares.filled
      rw [← declares.spelled] at reads
      exact absurd reads (Tree.shorterRead (Tree.nestedOn way nested) branches shorter filled on bare)
    · exact .inl (Position.ofOffsetMono before)
    · exact .inr (Position.ofOffsetMono behind)
  · rintro ⟨r, used, within, _⟩
    exact ⟨r, used, within⟩

end Found

end Named

end Document

namespace History

theorem declaredIn {parse : String → Tree} {settings : Settings} {events : List (FileSystem × Step)}
    {uri : String} {d : Document} (entry : (run parse (.empty settings) events).document? uri = some d)
    {s : DeclaredSymbol} (member : s ∈ d.symbols) : s.uri = uri ∧ ∃ v name, d.Declares v name s := by
  obtain ⟨fs, content, rfl⟩ := runOrigin entry
  obtain ⟨v, met, found⟩ := List.mem_filterMap.mp member
  obtain ⟨owned, filled, placed⟩ := symbolFrom found
  obtain ⟨name, first, spelled⟩ := symbolNamed found
  exact ⟨owned, v, name, met, owned ▸ found, first, spelled, placed, filled⟩

/- A declared name is found in its declaration if a token names it and it has no blanks around it, and not
found otherwise. Where the naming child has tokens of its own, none of which takes all its room, it is
found exactly if a token of the declaration that stands outside that child reads as the name. -/
theorem declaredFound (settings : Settings) {parse : String → Tree}
    (nested : ∀ content, (parse content).Nested) (grammatical : ∀ content, (parse content).Grammatical)
    (events : List (FileSystem × Step)) {uri : String} {d : Document}
    (entry : (run parse (.empty settings) events).document? uri = some d) {s : DeclaredSymbol}
    (member : s ∈ d.symbols) :
    s.uri = uri ∧ ∃ v name, d.Declares v name s ∧
      (name.isLeaf = true →
        ((run parse (.empty settings) events).Finds s ↔ Text.trim s.name.toList = s.name.toList)) ∧
      (name.isLeaf = false →
        (∀ c ∈ name.visible, c.label.stop - c.label.start < name.label.stop - name.label.start) →
        ((run parse (.empty settings) events).Finds s ↔ ∃ r, d.UsedAt s.name r ∧ r.Within s.range ∧
          ((compare r.stop (name.range d.text).start).isLE = true ∨
            (compare (name.range d.text).stop r.start).isLE = true))) := by
  obtain ⟨rfl, v, name, declares⟩ := declaredIn entry member
  have parsed : d.tree = parse d.content := by
    obtain ⟨fs, content, rfl⟩ := runOrigin entry
    rfl
  have whole : d.tree.Nested := parsed ▸ nested d.content
  have shaped : d.tree.Grammatical := parsed ▸ grammatical d.content
  exact ⟨rfl, v, name, declares, Document.tokenFound entry declares whole shaped,
    Document.branchFound entry declares whole⟩

def assigned : Tree :=
  .node ⟨"program", true, false, false, false, "", 0, 3⟩
    [.node ⟨"variable_assignment", true, false, false, false, "", 0, 3⟩
      [.node ⟨"variable_name", true, false, false, false, "name", 0, 1⟩ [],
        .node ⟨"=", false, false, false, false, "", 1, 2⟩ [],
        .node ⟨"word", true, false, false, false, "value", 2, 3⟩ []]]

def subscripted : Tree :=
  .node ⟨"program", true, false, false, false, "", 0, 7⟩
    [.node ⟨"variable_assignment", true, false, false, false, "", 0, 6⟩
      [.node ⟨"subscript", true, false, false, false, "name", 0, 4⟩
        [.node ⟨"variable_name", true, false, false, false, "name", 0, 1⟩ [],
          .node ⟨"[", false, false, false, false, "", 1, 2⟩ [],
          .node ⟨"number", true, false, false, false, "index", 2, 3⟩ [],
          .node ⟨"]", false, false, false, false, "", 3, 4⟩ []],
        .node ⟨"=", false, false, false, false, "", 4, 5⟩ [],
        .node ⟨"number", true, false, false, false, "value", 5, 6⟩ []]]

def assignedEvents : List (FileSystem × Step) :=
  [(.empty, .analyze "file:///a" "x=x")]

def assignedSymbol : DeclaredSymbol :=
  ⟨"x", .variable, ⟨⟨0, 0⟩, ⟨0, 3⟩⟩, "file:///a", none⟩

theorem assignedFound : (run (fun _ => assigned) (.empty .standard) assignedEvents).Finds assignedSymbol := by
  have nested : assigned.Nested := Tree.nestedOfFits [] (by decide)
  have grammatical : assigned.Grammatical := List.all_eq_true.mp (by decide +kernel)
  have entry : (run (fun _ => assigned) (.empty .standard) assignedEvents).document? "file:///a" =
      some (.build (fun _ => assigned) .empty "sh" "file:///a" "x=x") := rfl
  have member : assignedSymbol ∈
      (Document.build (fun _ => assigned) .empty "sh" "file:///a" "x=x").symbols := by decide +kernel
  obtain ⟨_, v, name, declares, token, _⟩ := declaredFound .standard (fun _ => nested)
    (fun _ => grammatical) assignedEvents entry member
  have tokens : (assigned.walk.all fun v => (symbol? "file:///a" "x=x".toList v).isNone ||
      v.node.namedChildren.head?.all Tree.isLeaf) = true := by decide +kernel
  have bare := List.all_eq_true.mp tokens v declares.met
  have declared : symbol? "file:///a" "x=x".toList v = some assignedSymbol := declares.declared
  rw [declared, declares.first] at bare
  exact (token bare).mpr (by decide)

def subscriptedEvents : List (FileSystem × Step) :=
  [(.empty, .analyze "file:///a" "j[0]=1\n")]

def subscriptedSymbol : DeclaredSymbol :=
  ⟨"j[0]", .variable, ⟨⟨0, 0⟩, ⟨0, 6⟩⟩, "file:///a", none⟩

theorem subscriptMissed :
    subscripted.Nested ∧ subscripted.Grammatical ∧
    ((run (fun _ => subscripted) (.empty .standard) subscriptedEvents).document? "file:///a").map (·.symbols) =
      some [subscriptedSymbol] ∧
    ¬ (run (fun _ => subscripted) (.empty .standard) subscriptedEvents).Finds subscriptedSymbol := by
  refine ⟨Tree.nestedOfFits [] (by decide), List.all_eq_true.mp (by decide +kernel), by decide +kernel, ?_⟩
  rintro ⟨l, member, _⟩
  have nothing : (run (fun _ => subscripted) (.empty .standard) subscriptedEvents).occurrences "file:///a" "j[0]" =
      [] := by decide +kernel
  have none : l ∉ ([] : List Location) := by simp
  exact none (nothing ▸ member)

end History

end ShellAtlas
