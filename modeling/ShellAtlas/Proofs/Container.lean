import ShellAtlas.Proofs.Declaration
/-!
The function around a declaration. A walk meets a node behind all its ancestors, so a symbol is listed behind
the symbols that they declare. The container of a symbol is looked for upwards by the kind alone, while a
function is listed only if it is neither an error nor missing. Where no error has the kind of a function and
missing nodes have no children, the two agree: a symbol with a container is listed behind the function that
the container names.
-/
namespace ShellAtlas

namespace Tree

inductive Below (t : Tree) : List Tree → Tree → Prop where
  | root : Below t [] t
  | child {above : List Tree} {parent c : Tree} (upper : Below t above parent) (member : c ∈ parent.visible) :
      Below t (parent :: above) c

theorem flatMapParts {α β : Type} {f : α → List β} {xs : List α} {before after : List β} {v : β}
    (parts : xs.flatMap f = before ++ v :: after) :
    ∃ x ∈ xs, ∃ front back, f x = front ++ v :: back ∧ ∀ w ∈ front, w ∈ before := by
  induction xs generalizing before with
  | nil => simp at parts
  | cons x xs ih =>
    rw [List.flatMap_cons] at parts
    rcases List.append_eq_append_iff.mp parts with ⟨gap, longer, rest⟩ | ⟨gap, longer, rest⟩
    · obtain ⟨y, member, front, back, found, within⟩ := ih rest
      refine ⟨y, List.mem_cons_of_mem _ member, front, back, found, fun w inside => ?_⟩
      rw [longer]
      exact List.mem_append_right _ (within w inside)
    · cases gap with
      | nil =>
        have later : xs.flatMap f = [] ++ v :: after := rest.symm
        obtain ⟨y, member, front, back, found, within⟩ := ih later
        refine ⟨y, List.mem_cons_of_mem _ member, front, back, found, fun w inside => ?_⟩
        exact (List.not_mem_nil (within w inside)).elim
      | cons u gap =>
        obtain ⟨rfl, _⟩ := List.cons.inj rest
        exact ⟨x, List.mem_cons_self .., before, gap, longer, fun w inside => inside⟩

theorem parentBefore {t : Tree} {base : List Tree} {before after : List Visit} {v : Visit}
    (parts : visits base t = before ++ v :: after) :
    v = ⟨base, t⟩ ∨ ∃ parent above, v.above = parent :: above ∧ v.node ∈ parent.visible ∧
      ⟨above, parent⟩ ∈ before := by
  induction t using onChildren generalizing base before after with
  | step t ih =>
    rw [visitsNode] at parts
    cases before with
    | nil => exact .inl (List.cons.inj parts).1.symm
    | cons w before =>
      obtain ⟨rfl, deeper⟩ := List.cons.inj parts
      obtain ⟨c, child, front, back, found, within⟩ := flatMapParts deeper
      right
      rcases ih c (List.mem_of_mem_filter child) found with rfl | ⟨parent, above, upper, member, met⟩
      · exact ⟨t, base, rfl, child, List.mem_cons_self ..⟩
      · exact ⟨parent, above, upper, member, List.mem_cons_of_mem _ (within _ met)⟩

theorem childMet {t : Tree} {base above : List Tree} {parent c : Tree}
    (met : ⟨above, parent⟩ ∈ visits base t) (member : c ∈ parent.visible) :
    ⟨parent :: above, c⟩ ∈ visits base t := by
  induction t using onChildren generalizing base with
  | step t ih =>
    rw [visitsNode, List.mem_cons, List.mem_flatMap] at met ⊢
    right
    rcases met with here | ⟨d, child, deeper⟩
    · cases here
      refine ⟨c, member, ?_⟩
      rw [visitsNode]
      exact List.mem_cons_self ..
    · exact ⟨d, child, ih d (List.mem_of_mem_filter child) deeper⟩

theorem metOfBelow {t n : Tree} {above : List Tree} (below : t.Below above n) : ⟨above, n⟩ ∈ t.walk := by
  induction below with
  | root =>
    rw [walk, visitsNode]
    exact List.mem_cons_self ..
  | child upper member ih => exact childMet ih member

theorem aboveBefore {t : Tree} {before after : List Visit} {v : Visit}
    (parts : t.walk = before ++ v :: after) :
    t.Below v.above v.node ∧
      ∀ nearer f farther, v.above = nearer ++ f :: farther → f.visible ≠ [] ∧ ⟨farther, f⟩ ∈ before := by
  obtain ⟨above, node⟩ := v
  induction above generalizing node before after with
  | nil =>
    rcases parentBefore parts with root | ⟨parent, upper, above, _⟩
    · cases root
      exact ⟨.root, fun nearer f farther none => by simp at none⟩
    · contradiction
  | cons p rest ih =>
    rcases parentBefore parts with root | ⟨parent, upper, above, member, met⟩
    · cases root
    · obtain ⟨rfl, rfl⟩ := List.cons.inj above
      obtain ⟨front, back, rfl⟩ := List.append_of_mem met
      rw [List.append_assoc, List.cons_append] at parts
      obtain ⟨below, earlier⟩ := ih p parts
      refine ⟨.child below member, fun nearer f farther split => ?_⟩
      cases nearer with
      | nil =>
        obtain ⟨rfl, rfl⟩ := List.cons.inj split
        exact ⟨List.ne_nil_of_mem member, met⟩
      | cons q nearer =>
        obtain ⟨filled, found⟩ := earlier nearer f farther (List.cons.inj split).2
        exact ⟨filled, List.mem_append_left _ found⟩

/- Missing nodes have no children, and no error has the kind of a function. -/
structure Recovered (t : Tree) : Prop where
  missing : ∀ v ∈ t.walk, v.node.label.missing = true → v.node.visible = []
  error : ∀ v ∈ t.walk, v.node.label.error = true → v.node.kind ≠ "function_definition"

def Enclosing (t : Tree) : Prop :=
  ∀ v ∈ t.walk, ∀ c ∈ v.node.visible,
    v.node.label.start ≤ c.label.start ∧ c.label.stop ≤ v.node.label.stop

theorem nestedEnclosing {t : Tree} (nested : t.Nested) : t.Enclosing := by
  intro v met c child
  obtain ⟨earlier, way⟩ := wayOfMet met
  cases nestedOn way nested with
  | intro forward inside apart below => exact inside c child

theorem aboveEncloses {t n : Tree} {above : List Tree} (enclosing : t.Enclosing) (below : t.Below above n) :
    ∀ f ∈ above, f.label.start ≤ n.label.start ∧ n.label.stop ≤ f.label.stop := by
  induction below with
  | root => simp
  | @child above parent c upper member ih =>
    intro f inside
    obtain ⟨starts, stops⟩ := enclosing _ (metOfBelow upper) c member
    rcases List.mem_cons.mp inside with rfl | farther
    · exact ⟨starts, stops⟩
    · obtain ⟨first, last⟩ := ih f farther
      exact ⟨Nat.le_trans first starts, Nat.le_trans stops last⟩

def Names (source : List Char) (t : Tree) (name : String) : Prop :=
  ∃ child, t.namedChildren.head? = some child ∧ child.text source = name.toList ∧ name ≠ ""

theorem namesIff {source : List Char} {t : Tree} {name : String} :
    (t.nameText? source).map String.ofList = some name ↔ t.Names source name := by
  unfold nameText? Names
  rw [Option.map_eq_some_iff]
  constructor
  · intro spelled
    obtain ⟨text, read, rfl⟩ := spelled
    obtain ⟨taken, filled⟩ := Option.filter_eq_some_iff.mp read
    obtain ⟨child, first, rfl⟩ := Option.map_eq_some_iff.mp taken
    exact ⟨child, first, String.toList_ofList.symm, by simpa using filled⟩
  · intro named
    obtain ⟨child, first, same, filled⟩ := named
    refine ⟨name.toList, ?_, String.ofList_toList⟩
    rw [first, Option.map_some, same, Option.filter_some, if_pos (by simpa using filled)]

end Tree

structure NearestFunction (above : List Tree) (f : Tree) (farther : List Tree) : Prop where
  parts : ∃ nearer, above = nearer ++ f :: farther ∧ ∀ a ∈ nearer, a.kind ≠ "function_definition"
  kind : f.kind = "function_definition"

theorem nearestIff {above : List Tree} {f : Tree} :
    above.find? (·.kind = "function_definition") = some f ↔ ∃ farther, NearestFunction above f farther := by
  rw [List.find?_eq_some_iff_append]
  constructor
  · intro found
    obtain ⟨kind, nearer, farther, parts, others⟩ := found
    exact ⟨farther, ⟨nearer, parts, by simpa using others⟩, by simpa using kind⟩
  · intro nearest
    obtain ⟨farther, ⟨nearer, parts, others⟩, kind⟩ := nearest
    exact ⟨by simpa using kind, nearer, farther, parts, by simpa using others⟩

theorem containerIff {source : List Char} {above : List Tree} {c : String} :
    container? source above = some c ↔
      ∃ f farther, NearestFunction above f farther ∧ f.Names source c := by
  unfold container?
  rw [Option.bind_eq_some_iff]
  constructor
  · intro found
    obtain ⟨f, nearest, named⟩ := found
    obtain ⟨farther, nearest⟩ := nearestIff.mp nearest
    exact ⟨f, farther, nearest, Tree.namesIff.mp named⟩
  · intro found
    obtain ⟨f, farther, nearest, named⟩ := found
    exact ⟨f, nearestIff.mpr ⟨farther, nearest⟩, Tree.namesIff.mpr named⟩

theorem containerNamed {source : List Char} {above farther : List Tree} {f : Tree} {c : String}
    (nearest : NearestFunction above f farther) (contained : container? source above = some c) :
    f.Names source c := by
  have first := nearestIff.mpr ⟨farther, nearest⟩
  rw [container?, first, Option.bind_some] at contained
  exact Tree.namesIff.mp contained

theorem symbolContainer {uri : String} {source : List Char} {v : Visit} {s : DeclaredSymbol}
    (found : symbol? uri source v = some s) : s.containerName = container? source v.above := by
  obtain ⟨kind, declared⟩ := symbolDeclared found
  obtain ⟨name, _, rfl⟩ := Option.map_eq_some_iff.mp declared
  rfl

theorem functionDeclared {uri : String} {source : List Char} {v : Visit} {c : String}
    (category : v.node.category = .functionDefinition) (named : v.node.Names source c) :
    ∃ g, symbol? uri source v = some g ∧ g.kind = .function ∧ g.name = c ∧ g.range = v.node.range source := by
  obtain ⟨text, read, rfl⟩ := Option.map_eq_some_iff.mp (Tree.namesIff.mpr named)
  refine ⟨⟨String.ofList text, .function, v.node.range source, uri, container? source v.above⟩, ?_, rfl, rfl, rfl⟩
  unfold symbol? declared?
  rw [category, read]
  rfl

theorem functionCategory {t : Tree} (recovered : t.Recovered) {v : Visit} (met : v ∈ t.walk)
    (filled : v.node.visible ≠ []) (kind : v.node.kind = "function_definition") :
    v.node.category = .functionDefinition := by
  have present : ¬ v.node.label.missing = true := fun missing => filled (recovered.missing v met missing)
  have sound : ¬ v.node.label.error = true := fun error => recovered.error v met error kind
  unfold Tree.category
  rw [if_neg present, if_neg sound, kind]
  rfl

/- A symbol has a container exactly if the nearest function around its node has a name, and then the
container is that name. That function is listed before the symbol, and its range encloses the symbol's. -/
theorem containerInnermost (uri : String) (source : List Char) {t : Tree} (recovered : t.Recovered)
    {earlier later : List DeclaredSymbol} {s : DeclaredSymbol}
    (listed : (Outline.of uri source t).symbols = earlier ++ s :: later) :
    ∃ v ∈ t.walk, t.Below v.above v.node ∧ symbol? uri source v = some s ∧
      (∀ c, s.containerName = some c ↔
        ∃ f farther, NearestFunction v.above f farther ∧ f.Names source c) ∧
      ∀ f farther c, NearestFunction v.above f farther → s.containerName = some c →
        ∃ g ∈ earlier, symbol? uri source ⟨farther, f⟩ = some g ∧ g.kind = .function ∧ g.name = c ∧
          (t.Enclosing → s.range.Within g.range) := by
  obtain ⟨front, rest, whole, passed, coming⟩ := List.filterMap_eq_append_iff.mp listed
  obtain ⟨silent, v, after, rfl, none, found, _⟩ := List.filterMap_eq_cons_iff.mp coming
  rw [← List.append_assoc] at whole
  obtain ⟨below, before⟩ := Tree.aboveBefore whole
  refine ⟨v, by simp [whole], below, found, fun c => ?_, fun f farther c nearest contained => ?_⟩
  · rw [symbolContainer found, containerIff]
  · obtain ⟨nearer, parts, others⟩ := nearest.parts
    obtain ⟨filled, earlierMet⟩ := before nearer f farther parts
    have met : ⟨farther, f⟩ ∈ t.walk := by
      rw [whole]
      exact List.mem_append_left _ earlierMet
    have named := containerNamed nearest ((symbolContainer found).symm.trans contained)
    have category := functionCategory recovered met filled nearest.kind
    obtain ⟨g, declared, kind, name, range⟩ := functionDeclared category named
    refine ⟨g, ?_, declared, kind, name, fun enclosing => ?_⟩
    · rw [← passed]
      refine List.mem_filterMap.mpr ⟨_, ?_, declared⟩
      rcases List.mem_append.mp earlierMet with inside | quiet
      · exact inside
      · rw [none _ quiet] at declared
        contradiction
    · obtain ⟨starts, stops⟩ := Tree.aboveEncloses enclosing below f (by simp [parts])
      rw [range, (symbolFrom found).2.2]
      exact ⟨Position.ofOffsetMono starts, Position.ofOffsetMono stops⟩

/- A function in a function, with an error around the assignment: `f() { g() { x=1) }; }`. -/
def nestedFunctions : Tree :=
  .node ⟨"program", true, false, false, false, "", 0, 21⟩
    [.node ⟨"function_definition", true, false, false, false, "", 0, 21⟩
      [.node ⟨"word", true, false, false, false, "name", 0, 1⟩ [],
        .node ⟨"compound_statement", true, false, false, false, "body", 4, 21⟩
          [.node ⟨"function_definition", true, false, false, false, "", 6, 18⟩
            [.node ⟨"word", true, false, false, false, "name", 6, 7⟩ [],
              .node ⟨"compound_statement", true, false, false, false, "body", 10, 18⟩
                [.node ⟨"ERROR", true, true, false, false, "", 12, 16⟩
                  [.node ⟨"variable_assignment", true, false, false, false, "", 12, 15⟩
                    [.node ⟨"variable_name", true, false, false, false, "name", 12, 13⟩ []]]]]]]]

theorem nestedRecovered : nestedFunctions.Recovered := by
  have sound : (nestedFunctions.walk.all fun v => !v.node.label.missing &&
      (!v.node.label.error || v.node.kind ≠ "function_definition")) = true := by decide +kernel
  rw [List.all_eq_true] at sound
  constructor
  · intro v met missing
    have present := sound v met
    simp [missing] at present
  · intro v met error
    have other := sound v met
    simp only [error, Bool.not_true, Bool.false_or, Bool.and_eq_true, decide_eq_true_eq] at other
    exact other.2

def outerFunction : DeclaredSymbol :=
  ⟨"f", .function, ⟨⟨0, 0⟩, ⟨0, 21⟩⟩, "file:///a", none⟩

def innerFunction : DeclaredSymbol :=
  ⟨"g", .function, ⟨⟨0, 6⟩, ⟨0, 18⟩⟩, "file:///a", some "f"⟩

def innerVariable : DeclaredSymbol :=
  ⟨"x", .variable, ⟨⟨0, 12⟩, ⟨0, 15⟩⟩, "file:///a", some "g"⟩

theorem nestedInnermost :
    ∃ g ∈ [outerFunction, innerFunction], g.kind = .function ∧ g.name = "g" ∧
      innerVariable.range.Within g.range := by
  have listed : (Outline.of "file:///a" "f() { g() { x=1) }; }".toList nestedFunctions).symbols =
      [outerFunction, innerFunction] ++ innerVariable :: [] := by decide +kernel
  have enclosing : nestedFunctions.Enclosing := Tree.nestedEnclosing (Tree.nestedOfFits [] (by decide))
  obtain ⟨v, _, _, _, contained, earlier⟩ := containerInnermost "file:///a" _ nestedRecovered listed
  obtain ⟨f, farther, nearest, _⟩ := (contained "g").mp rfl
  obtain ⟨g, member, _, kind, name, within⟩ := earlier f farther "g" nearest rfl
  exact ⟨g, member, kind, name, within enclosing⟩

end ShellAtlas
