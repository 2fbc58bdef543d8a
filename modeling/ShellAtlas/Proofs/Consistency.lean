import ShellAtlas.Proofs.Position
import ShellAtlas.Proofs.Visibility
/-!
What is kept of a document fits together. Whatever happened to an index, each of its documents was
built whole from one text, so its symbols, faults and statements are those of that text's outline,
and its targets are those of its statements. The walk over a tree whose children lie in their parent
in order meets the nodes by their starts, and so do the symbols stand.
-/
namespace ShellAtlas

namespace Tree

/- Spans of nodes run forward, and children lie inside their parent, in order and without overlap.
Hidden tokens are no nodes and may lie anywhere. -/
inductive Nested : Tree → Prop where
  | intro {t : Tree} (forward : t.label.start ≤ t.label.stop)
      (inside : ∀ c ∈ t.visible, t.label.start ≤ c.label.start ∧ c.label.stop ≤ t.label.stop)
      (apart : t.visible.Pairwise fun a b => a.label.stop ≤ b.label.start)
      (below : ∀ c ∈ t.visible, Nested c) : Nested t

theorem shownNested {l : Label} {cs : List Tree} (shown : ∀ c ∈ cs, c.label.hidden = false)
    (forward : l.start ≤ l.stop)
    (inside : ∀ c ∈ cs, l.start ≤ c.label.start ∧ c.label.stop ≤ l.stop)
    (apart : cs.Pairwise fun a b => a.label.stop ≤ b.label.start) (below : ∀ c ∈ cs, c.Nested) :
    (node l cs).Nested := by
  have visible : (node l cs).visible = cs :=
    List.filter_eq_self.mpr fun c member => by simp [shown c member]
  refine .intro forward ?_ ?_ ?_ <;> rw [visible]
  · exact inside
  · exact apart
  · exact below

theorem leafNested (l : Label) (forward : l.start ≤ l.stop) : (node l []).Nested :=
  shownNested (by simp) forward (by simp) (by simp) (by simp)

theorem nestedVisible {t c : Tree} (nested : t.Nested) (child : c ∈ t.visible) : c.Nested := by
  cases nested with
  | intro forward inside apart below => exact below c child

theorem visitsOfVisible (above cs : List Tree) :
    visitsOf above cs = (cs.filter fun c => !c.label.hidden).flatMap (visits above) := by
  induction cs with
  | nil => simp [visitsOf]
  | cons c cs ih =>
    rw [visitsOf, ih]
    split <;> simp [*]

theorem visitsNode (above : List Tree) (t : Tree) :
    visits above t = ⟨above, t⟩ :: t.visible.flatMap (visits (t :: above)) := by
  cases t with
  | node l cs =>
    rw [visits, visitsOfVisible]
    rfl

theorem visitsInside {t : Tree} (nested : t.Nested) {above : List Tree} {v : Visit}
    (met : v ∈ visits above t) :
    t.label.start ≤ v.node.label.start ∧ v.node.label.start ≤ v.node.label.stop ∧
      v.node.label.stop ≤ t.label.stop := by
  induction nested generalizing above with
  | @intro t forward inside apart below ih =>
    rw [visitsNode, List.mem_cons, List.mem_flatMap] at met
    rcases met with rfl | ⟨c, child, later⟩
    · exact ⟨Nat.le_refl _, forward, Nat.le_refl _⟩
    · obtain ⟨starts, runs, stops⟩ := ih c child later
      obtain ⟨first, last⟩ := inside c child
      exact ⟨Nat.le_trans first starts, runs, Nat.le_trans stops last⟩

theorem visitsInOrder {t : Tree} (nested : t.Nested) (above : List Tree) :
    (visits above t).Pairwise fun v w => v.node.label.start ≤ w.node.label.start := by
  have whole : ∀ v ∈ visits above t, t.label.start ≤ v.node.label.start :=
    fun v met => (visitsInside nested met).1
  induction nested generalizing above with
  | @intro t forward inside apart below ih =>
    rw [visitsNode] at whole ⊢
    refine List.pairwise_cons.mpr ⟨fun v later => whole v (List.mem_cons_of_mem _ later), ?_⟩
    rw [List.pairwise_flatMap]
    constructor
    · intro c child
      exact ih c child _ fun v met => (visitsInside (below c child) met).1
    · -- What is met in a child ends before the next child starts.
      refine List.Pairwise.imp_of_mem ?_ apart
      intro a b left right before v first w second
      obtain ⟨_, runs, stops⟩ := visitsInside (below a left) first
      obtain ⟨starts, _, _⟩ := visitsInside (below b right) second
      exact Nat.le_trans runs (Nat.le_trans stops (Nat.le_trans before starts))

theorem rangeText (source : List Char) (t : Tree) :
    (t.range source).text? source = Text.slice? t.label.start t.label.stop source := by
  simp only [Range.text?, range, Position.offsetOfOffset]

theorem rangeTextFilled {source : List Char} {t : Tree} (filled : t.text source ≠ []) :
    (t.range source).text? source = some (t.text source) := by
  rw [rangeText]
  unfold text at filled ⊢
  cases cut : Text.slice? t.label.start t.label.stop source with
  | none => simp [cut] at filled
  | some cs => rfl

end Tree

theorem symbolDeclared {uri : String} {source : List Char} {v : Visit} {s : DeclaredSymbol}
    (found : symbol? uri source v = some s) : ∃ kind, declared? uri source kind v = some s := by
  unfold symbol? at found
  split at found
  · exact ⟨_, found⟩
  · exact ⟨_, found⟩
  · contradiction

theorem symbolFrom {uri : String} {source : List Char} {v : Visit} {s : DeclaredSymbol}
    (found : symbol? uri source v = some s) :
    s.uri = uri ∧ s.name ≠ "" ∧ s.range = v.node.range source := by
  obtain ⟨kind, declared⟩ := symbolDeclared found
  obtain ⟨name, read, rfl⟩ := Option.map_eq_some_iff.mp declared
  obtain ⟨_, filled⟩ := Option.filter_eq_some_iff.mp read
  exact ⟨rfl, by simpa using filled, rfl⟩

def quotes : List Char :=
  ['"', '\x27']

def Spells (text value : List Char) : Prop :=
  text = value ∨ ∃ q ∈ quotes, text = q :: value ++ [q]

theorem stripQuotesSpelled (cs : List Char) : Spells cs (stripQuotes cs) := by
  unfold stripQuotes
  split
  · rename_i q rest
    split
    · rename_i quoted
      simp only [Bool.and_eq_true, Bool.or_eq_true, decide_eq_true_eq] at quoted
      obtain ⟨front, whole⟩ := List.getLast?_eq_some_iff.mp quoted.2
      exact .inr ⟨q, by simpa [quotes] using quoted.1, by simp [whole]⟩
    · exact .inl rfl
  · exact .inl rfl

theorem literalSpelled {source : List Char} {t : Tree} {value : List Char}
    (read : literal? source t = some value) : Spells (t.text source) value := by
  unfold literal? at read
  split at read
  · exact .inl (Option.some.inj read)
  · split at read
    · rw [← Option.some.inj read]
      exact stripQuotesSpelled _
    · split at read
      · rw [← Option.some.inj read]
        exact stripQuotesSpelled _
      · contradiction

structure Literal (source : List Char) (raw : String) (range : Range) : Prop where
  filled : raw ≠ ""
  notHome : raw.toList.head? ≠ some '~'
  spelled : ∃ text, range.text? source = some text ∧ Spells text raw.toList

theorem sourcingFrom {source : List Char} {v : Visit} {a : SourcingArgument}
    (found : sourcing? source v = some a) : Literal source a.raw a.range := by
  have read : sourcingArgument? source v.node = some a := by
    unfold sourcing? at found
    split at found
    · exact found
    · contradiction
  simp only [sourcingArgument?, bind, Option.bind_eq_some_iff] at read
  obtain ⟨name, _, read⟩ := read
  split at read
  · obtain ⟨argument, _, read⟩ := Option.bind_eq_some_iff.mp read
    obtain ⟨raw, value, read⟩ := Option.bind_eq_some_iff.mp read
    split at read
    · contradiction
    · rename_i kept
      simp only [Bool.or_eq_true, decide_eq_true_eq, not_or] at kept
      cases Option.some.inj read
      have spelled := literalSpelled value
      have filled : argument.text source ≠ [] := by
        rcases spelled with same | ⟨q, _, quoted⟩
        · rw [same]
          exact kept.1
        · simp [quoted]
      refine ⟨by simpa using kept.1, by simpa using kept.2, _, Tree.rangeTextFilled filled, ?_⟩
      simpa using spelled
  · contradiction

namespace Target

instance : Std.TransOrd Target where
  eq_swap {a b} := by
    match a, b with
    | .resolved u, .resolved v => exact (Std.OrientedOrd.eq_swap : compare u v = (compare v u).swap)
    | .resolved _, .unresolved _ => rfl
    | .unresolved _, .resolved _ => rfl
    | .unresolved u, .unresolved v => exact (Std.OrientedOrd.eq_swap : compare u v = (compare v u).swap)
  isLE_trans {a b c} left right := by
    match a, b, c with
    | .resolved u, .resolved v, .resolved w =>
      exact (Std.TransOrd.isLE_trans left right : (compare u w).isLE = true)
    | .resolved _, _, .unresolved _ => rfl
    | .unresolved _, .resolved _, _ => contradiction
    | _, .unresolved _, .resolved _ => contradiction
    | .unresolved u, .unresolved v, .unresolved w =>
      exact (Std.TransOrd.isLE_trans left right : (compare u w).isLE = true)

instance : Std.LawfulEqOrd Target where
  eq_of_compare {a b} same := by
    match a, b with
    | .resolved u, .resolved v => exact congrArg resolved (Std.LawfulEqOrd.eq_of_compare same)
    | .resolved _, .unresolved _ => contradiction
    | .unresolved _, .resolved _ => contradiction
    | .unresolved u, .unresolved v => exact congrArg unresolved (Std.LawfulEqOrd.eq_of_compare same)

end Target

namespace Document

theorem memAddTarget {s t : Target} {ts : List Target} : s ∈ addTarget t ts ↔ s = t ∨ s ∈ ts := by
  refine ⟨addTargetMember, fun member => ?_⟩
  induction ts with
  | nil => simpa [addTarget] using member
  | cons x rest ih =>
    simp only [addTarget]
    split
    · exact List.mem_cons.mpr member
    · rename_i same
      rcases member with rfl | inside
      · rw [Std.LawfulEqOrd.eq_of_compare same]
        exact List.mem_cons_self ..
      · exact inside
    · rcases member with rfl | inside
      · exact List.mem_cons_of_mem _ (ih (.inl rfl))
      · rcases List.mem_cons.mp inside with rfl | later
        · exact List.mem_cons_self ..
        · exact List.mem_cons_of_mem _ (ih (.inr later))

theorem addTargetOrdered {t : Target} {ts : List Target}
    (ordered : ts.Pairwise fun a b => compare a b = .lt) :
    (addTarget t ts).Pairwise fun a b => compare a b = .lt := by
  induction ts with
  | nil => simp [addTarget]
  | cons x rest ih =>
    obtain ⟨first, later⟩ := List.pairwise_cons.mp ordered
    simp only [addTarget]
    split
    · rename_i less
      refine List.pairwise_cons.mpr ⟨fun y inside => ?_, ordered⟩
      rcases List.mem_cons.mp inside with rfl | behind
      · exact less
      · exact Std.TransCmp.lt_trans less (first y behind)
    · exact ordered
    · rename_i more
      refine List.pairwise_cons.mpr ⟨fun y inside => ?_, ih later⟩
      rcases memAddTarget.mp inside with rfl | behind
      · exact Std.OrientedCmp.lt_of_gt more
      · exact first y behind

theorem memTargetSet {s : Target} {ts : List Target} : s ∈ targetSet ts ↔ s ∈ ts := by
  refine ⟨targetSetMember, fun member => ?_⟩
  induction ts using List.reverseRecOn with
  | nil => exact member
  | append_singleton ts t ih =>
    rw [targetSet, List.foldl_append]
    rcases List.mem_append.mp member with before | last
    · exact memAddTarget.mpr (.inr (ih before))
    · exact memAddTarget.mpr (.inl (List.mem_singleton.mp last))

theorem targetSetOrdered (ts : List Target) :
    (targetSet ts).Pairwise fun a b => compare a b = .lt := by
  induction ts using List.reverseRecOn with
  | nil => exact .nil
  | append_singleton ts t ih =>
    rw [targetSet, List.foldl_append]
    exact addTargetOrdered ih

structure Consistent (parse : String → Tree) (uri : String) (d : Document) : Prop where
  named : d.uri = uri
  parsed : d.tree = parse d.content
  symbols : d.symbols = (Outline.of uri d.text d.tree).symbols
  diagnostics : d.diagnostics = (Outline.of uri d.text d.tree).diagnostics
  sourcing : (d.sourcing.map fun s => (⟨s.raw, s.range⟩ : SourcingArgument)) =
    (Outline.of uri d.text d.tree).sourcing
  owned : ∀ s ∈ d.symbols, s.uri = uri ∧ s.name ≠ ""
  ordered : d.symbols.Pairwise fun s t => (compare s.range.start t.range.start).isLE = true
  literal : ∀ s ∈ d.sourcing, Literal d.text s.raw s.range
  targets : ∀ t, t ∈ d.targets ↔ ∃ s ∈ d.sourcing, s.target = t
  targetsOrdered : d.targets.Pairwise fun s t => compare s t = .lt

theorem buildConsistent {parse : String → Tree} {content : String} (nested : (parse content).Nested)
    (fs : FileSystem) (extension uri : String) :
    Consistent parse uri (build parse fs extension uri content) where
  named := rfl
  parsed := rfl
  symbols := rfl
  diagnostics := rfl
  sourcing := by
    rw [build, List.map_map]
    exact List.map_id _
  owned := by
    intro s member
    obtain ⟨v, _, found⟩ := List.mem_filterMap.mp member
    exact ⟨(symbolFrom found).1, (symbolFrom found).2.1⟩
  ordered := by
    refine List.pairwise_filterMap.mpr ((Tree.visitsInOrder nested []).imp ?_)
    intro v w before s first t second
    rw [(symbolFrom first).2.2, (symbolFrom second).2.2]
    exact Position.ofOffsetMono before
  literal := by
    intro s member
    obtain ⟨a, inside, rfl⟩ := List.mem_map.mp member
    obtain ⟨v, _, found⟩ := List.mem_filterMap.mp inside
    exact sourcingFrom found
  targets := by
    intro t
    rw [build, memTargetSet, List.mem_map]
  targetsOrdered := targetSetOrdered _

end Document

namespace History

theorem appliedOrigin {parse : String → Tree} {fs : FileSystem} {a : Atlas} {cs : List Change}
    {uri : String} {d : Document} (entry : (cs.foldl (apply parse fs) a).document? uri = some d) :
    a.document? uri = some d ∨
      ∃ content, d = .build parse fs a.settings.scriptExtension uri content := by
  induction cs using List.reverseRecOn with
  | nil => exact .inl entry
  | append_singleton cs c ih =>
    rw [List.foldl_append, List.foldl_cons, List.foldl_nil, applyDocument, appliedSettings] at entry
    split at entry
    · obtain ⟨content, _, built⟩ := Option.map_eq_some_iff.mp entry
      exact .inr ⟨content, built.symm⟩
    · exact ih entry

theorem runSettings (parse : String → Tree) (a : Atlas) (events : List (FileSystem × Step)) :
    (run parse a events).settings = a.settings := by
  induction events generalizing a with
  | nil => rfl
  | cons e rest ih => exact (ih _).trans (stepSettings parse e.1 a e.2)

theorem runOrigin {parse : String → Tree} {settings : Settings} {events : List (FileSystem × Step)}
    {uri : String} {d : Document}
    (entry : (run parse (.empty settings) events).document? uri = some d) :
    ∃ fs content, d = .build parse fs settings.scriptExtension uri content := by
  induction events using List.reverseRecOn with
  | nil => contradiction
  | append_singleton before e ih =>
    rw [run, List.foldl_append, List.foldl_cons, List.foldl_nil, stepChanges] at entry
    rcases appliedOrigin entry with kept | ⟨content, built⟩
    · exact ih kept
    · rw [← run, runSettings] at built
      exact ⟨e.1, content, built⟩

theorem namelessUndefined {a : Atlas}
    (named : ∀ uri d, a.document? uri = some d → ∀ s ∈ d.symbols, s.name ≠ "") (uri : String) :
    a.definitions uri "" none = [] := by
  have none : a.matching "" uri true = [] := by
    rw [List.eq_nil_iff_forall_not_mem]
    intro s member
    obtain ⟨empty, v, _, d, entry, t, declared, same, _⟩ :=
      Atlas.matchingIff.mp ⟨s, member, rfl, rfl⟩
    exact named v d entry t declared (same.trans empty)
  simp [Atlas.definitions, none]

/- Documents stay consistent whatever is analyzed, removed and scanned, and however the file system
changes between. No definition is found for the empty word. -/
theorem documentsConsistent (settings : Settings) {parse : String → Tree}
    (nested : ∀ content, (parse content).Nested) (events : List (FileSystem × Step)) :
    (∀ uri d, (run parse (.empty settings) events).document? uri = some d →
      d.Consistent parse uri) ∧
    ∀ uri, (run parse (.empty settings) events).definitions uri "" none = [] := by
  have consistent : ∀ uri d, (run parse (.empty settings) events).document? uri = some d →
      d.Consistent parse uri := by
    intro uri d entry
    obtain ⟨fs, content, rfl⟩ := runOrigin entry
    exact Document.buildConsistent (nested content) fs _ uri
  exact ⟨consistent, namelessUndefined fun uri d entry s member =>
    ((consistent uri d entry).owned s member).2⟩

theorem letterLinesNested (text : String) : (letterLines text).Nested := by
  refine Tree.shownNested ?_ (Nat.zero_le _) ?_ ?_ ?_
  · intro c member
    obtain ⟨i, _, rfl⟩ := List.mem_map.mp member
    rfl
  · intro c member
    obtain ⟨i, inside, rfl⟩ := List.mem_map.mp member
    have last := List.mem_range.mp inside
    simp only [Tree.label]
    omega
  · refine List.pairwise_map.mpr (List.pairwise_lt_range.imp ?_)
    intro i j before
    simp only [Tree.label]
    omega
  · intro c member
    obtain ⟨i, _, rfl⟩ := List.mem_map.mp member
    refine Tree.shownNested (by simp [Tree.label]) ?_ ?_ ?_ ?_
    · simp
    · simp [Tree.label]
    · simp [Tree.label]
    · simp [Tree.leafNested]

theorem twoTreesNested (text : String) : (Atlas.twoTrees text).Nested := by
  unfold Atlas.twoTrees
  split
  · have name : (Tree.node ⟨"variable_name", true, false, false, false, "name", 0, 1⟩ []).Nested :=
      Tree.leafNested _ (by simp)
    have assignment : (Tree.node ⟨"variable_assignment", true, false, false, false, "", 0, 3⟩
        [.node ⟨"variable_name", true, false, false, false, "name", 0, 1⟩ []]).Nested :=
      Tree.shownNested (by decide) (by decide) (by decide) (by decide) (by simpa using name)
    exact Tree.shownNested (by decide) (by decide) (by decide) (by decide) (by simpa using assignment)
  · exact letterLinesNested text

def growing : List (FileSystem × Step) :=
  [(oneScript, .analyze "file:///a.sh" "source b\n"), (oneScript, .remove "file:///c.sh"),
    (Atlas.twoScripts, .scan (fun _ _ => .ok [.ofText "/a.sh", .ofText "/b.sh"]) (.ofText ".") ⟨"0", "1"⟩)]

theorem growingConsistent :
    ∃ d e, (run Atlas.twoTrees (.empty .standard) growing).document? "file:///a.sh" = some d ∧
      (run Atlas.twoTrees (.empty .standard) growing).document? "file:///b.sh" = some e ∧
      d.Consistent Atlas.twoTrees "file:///a.sh" ∧ e.Consistent Atlas.twoTrees "file:///b.sh" ∧
      d.sourcing = [⟨"b", ⟨⟨0, 7⟩, ⟨0, 8⟩⟩, .resolved "file:///b.sh"⟩] ∧
      Literal d.text "b" ⟨⟨0, 7⟩, ⟨0, 8⟩⟩ ∧ .resolved "file:///b.sh" ∈ d.targets ∧
      (Outline.of "file:///a.sh" d.text d.tree).sourcing = [⟨"b", ⟨⟨0, 7⟩, ⟨0, 8⟩⟩⟩] ∧
      e.symbols.map (·.name) = ["x"] ∧
      (run Atlas.twoTrees (.empty .standard) growing).definitions "file:///a.sh" "" none = [] := by
  obtain ⟨consistent, undefined⟩ := documentsConsistent .standard twoTreesNested growing
  have sources : ((run Atlas.twoTrees (.empty .standard) growing).document? "file:///a.sh").map (·.sourcing) =
      some [⟨"b", ⟨⟨0, 7⟩, ⟨0, 8⟩⟩, .resolved "file:///b.sh"⟩] := by decide +kernel
  have declares : ((run Atlas.twoTrees (.empty .standard) growing).document? "file:///b.sh").map
      (fun e => e.symbols.map (·.name)) = some ["x"] := by decide +kernel
  obtain ⟨d, sourcing, statements⟩ := Option.map_eq_some_iff.mp sources
  obtain ⟨e, sourced, names⟩ := Option.map_eq_some_iff.mp declares
  have kept := consistent _ d sourcing
  have arguments := kept.sourcing
  rw [statements] at arguments
  have literal := kept.literal ⟨"b", ⟨⟨0, 7⟩, ⟨0, 8⟩⟩, .resolved "file:///b.sh"⟩ (by simp [statements])
  have target := (kept.targets (.resolved "file:///b.sh")).mpr
    ⟨_, by rw [statements]; exact List.mem_singleton.mpr rfl, rfl⟩
  exact ⟨d, e, sourcing, sourced, kept, consistent _ e sourced, statements, literal, target, arguments.symm,
    names, undefined _⟩

end History

end ShellAtlas
