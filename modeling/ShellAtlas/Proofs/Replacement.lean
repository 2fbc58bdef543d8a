import ShellAtlas.Proofs.Container
/-!
One node of a tree replaced by another. A symbol takes its name from a child and its container from an
ancestor, so a change could be felt far away. But a parent sees of a child only whether it is named and what
span it has, and a node sees of the functions around it only their names. Where these stay, the outline
changes at the place of the node and nowhere else.
-/
namespace ShellAtlas

namespace Tree

structure Frame where
  label : Label
  shown : label.hidden = false
  before : List Tree
  after : List Tree

def Frame.fill (f : Frame) (t : Tree) : Tree :=
  .node f.label (f.before ++ t :: f.after)

def fill (frames : List Frame) (t : Tree) : Tree :=
  frames.foldr Frame.fill t

def around (above : List Tree) : List Frame → Tree → List Tree
  | [], _ => above
  | f :: frames, t => around (fill (f :: frames) t :: above) frames t

def front (above : List Tree) : List Frame → Tree → List Visit
  | [], _ => []
  | f :: frames, t =>
    ⟨above, fill (f :: frames) t⟩ :: visitsOf (fill (f :: frames) t :: above) f.before ++
      front (fill (f :: frames) t :: above) frames t

def back (above : List Tree) : List Frame → Tree → List Visit
  | [], _ => []
  | f :: frames, t =>
    back (fill (f :: frames) t :: above) frames t ++ visitsOf (fill (f :: frames) t :: above) f.after

structure Alike (t u : Tree) : Prop where
  hidden : t.label.hidden = u.label.hidden
  named : t.label.named = u.label.named
  start : t.label.start = u.label.start
  stop : t.label.stop = u.label.stop

theorem alikeFill {t u : Tree} (alike : t.Alike u) (frames : List Frame) :
    (fill frames t).Alike (fill frames u) := by
  cases frames with
  | nil => exact alike
  | cons f frames => exact ⟨rfl, rfl, rfl, rfl⟩

theorem shownFill {t : Tree} (shown : t.label.hidden = false) (frames : List Frame) :
    (fill frames t).label.hidden = false := by
  cases frames with
  | nil => exact shown
  | cons f frames => exact f.shown

theorem namedFilled (f : Frame) (t : Tree) :
    (f.fill t).namedChildren = (f.before.filter fun c => !c.label.hidden).filter (fun c => c.label.named) ++
      ([t].filter fun c => !c.label.hidden).filter (fun c => c.label.named) ++
        (f.after.filter fun c => !c.label.hidden).filter fun c => c.label.named := by
  have children : (f.fill t).children = f.before ++ [t] ++ f.after := by simp [Frame.fill, children]
  rw [namedChildren, visible, children, List.filter_append, List.filter_append, List.filter_append,
    List.filter_append]

theorem nameFilled {t u : Tree} (alike : t.Alike u) (f : Frame) (source : List Char) :
    (f.fill t).nameText? source = (f.fill u).nameText? source := by
  have spelled : t.text source = u.text source := by rw [text, text, alike.start, alike.stop]
  have first : ((f.fill t).namedChildren.map (text source)) = (f.fill u).namedChildren.map (text source) := by
    rw [namedFilled, namedFilled]
    simp only [List.map_append]
    congr 2
    cases hidden : u.label.hidden with
    | true => simp [alike.hidden, hidden]
    | false =>
      cases named : u.label.named with
      | true => simp [alike.hidden, alike.named, hidden, named, spelled]
      | false => simp [alike.hidden, alike.named, hidden, named]
  rw [nameText?, nameText?, ← List.head?_map, ← List.head?_map, first]

end Tree

def face (uri : String) (source : List Char) (v : Visit) : Option DeclaredSymbol × Option Diagnostic :=
  (symbol? uri source v, diagnostic? source v)

theorem facesSame {uri : String} {source : List Char} {vs ws : List Visit}
    (same : vs.map (face uri source) = ws.map (face uri source)) :
    vs.filterMap (symbol? uri source) = ws.filterMap (symbol? uri source) ∧
    vs.filterMap (diagnostic? source) = ws.filterMap (diagnostic? source) := by
  have symbols := congrArg (List.filterMap Prod.fst) same
  have diagnostics := congrArg (List.filterMap Prod.snd) same
  rw [List.filterMap_map, List.filterMap_map] at symbols diagnostics
  exact ⟨symbols, diagnostics⟩

theorem containerCons (source : List Char) (t : Tree) (above : List Tree) :
    container? source (t :: above) =
      if t.kind = "function_definition" then (t.nameText? source).map String.ofList
      else container? source above := by
  unfold container?
  by_cases kind : t.kind = "function_definition"
  · simp [kind]
  · simp [kind]

section Same
variable {source : List Char} {t u : Tree} {above other : List Tree} (label : t.label = u.label)
  (name : t.nameText? source = u.nameText? source)
  (container : container? source above = container? source other)
include label name container

theorem containerSame : container? source (t :: above) = container? source (u :: other) := by
  have kind : t.kind = u.kind := congrArg Label.kind label
  rw [containerCons, containerCons, kind, name, container]

theorem faceSame (uri : String) : face uri source ⟨above, t⟩ = face uri source ⟨other, u⟩ := by
  have kind : t.kind = u.kind := congrArg Label.kind label
  have category : t.category = u.category := by unfold Tree.category; rw [label, kind]
  have range : t.range source = u.range source := by unfold Tree.range; rw [label]
  have declared : ∀ k, declared? uri source k ⟨above, t⟩ = declared? uri source k ⟨other, u⟩ := by
    intro k
    unfold declared?
    simp only [name, range, container]
  unfold face symbol? diagnostic?
  simp only [category, declared, range, kind]

end Same

section Faces
variable {source : List Char} {above other : List Tree}
  (container : container? source above = container? source other)
include container

theorem visitsFaces (uri : String) (t : Tree) :
    (t.visits above).map (face uri source) = (t.visits other).map (face uri source) := by
  induction t using Tree.onChildren generalizing above other with
  | step t ih =>
    have deeper : container? source (t :: above) = container? source (t :: other) :=
      containerSame rfl rfl container
    have children : (t.visible.flatMap (Tree.visits (t :: above))).map (face uri source) =
        (t.visible.flatMap (Tree.visits (t :: other))).map (face uri source) := by
      rw [List.map_flatMap, List.map_flatMap]
      exact List.flatMap_congr fun c child => ih c (List.mem_of_mem_filter child) deeper
    rw [Tree.visitsNode, Tree.visitsNode, List.map_cons, List.map_cons, faceSame rfl rfl container, children]

theorem siblingsFaces (uri : String) (cs : List Tree) :
    (Tree.visitsOf above cs).map (face uri source) = (Tree.visitsOf other cs).map (face uri source) := by
  rw [Tree.visitsOfVisible, Tree.visitsOfVisible, List.map_flatMap, List.map_flatMap]
  exact List.flatMap_congr fun c _ => visitsFaces container uri c

end Faces

namespace Tree

theorem visitsFrame (f : Frame) {t : Tree} (shown : t.label.hidden = false) (above : List Tree) :
    visits above (f.fill t) = (⟨above, f.fill t⟩ :: visitsOf (f.fill t :: above) f.before) ++
      visits (f.fill t :: above) t ++ visitsOf (f.fill t :: above) f.after := by
  have parts : (f.fill t).visible = f.before.filter (fun c => !c.label.hidden) ++
      t :: f.after.filter fun c => !c.label.hidden := by
    simp [visible, Frame.fill, children, shown]
  rw [visitsNode, parts, visitsOfVisible, visitsOfVisible, List.flatMap_append, List.flatMap_cons]
  simp

theorem visitsFilled (frames : List Frame) {t : Tree} (shown : t.label.hidden = false) (above : List Tree) :
    visits above (fill frames t) =
      front above frames t ++ visits (around above frames t) t ++ back above frames t := by
  induction frames generalizing above with
  | nil => simp [fill, front, around, back]
  | cons f frames ih =>
    have outer := visitsFrame f (shownFill shown frames) above
    rw [ih] at outer
    simpa [fill, front, around, back] using outer

theorem walkFilled {β : Type} (read : Visit → Option β) (frames : List Frame) {t : Tree}
    (shown : t.label.hidden = false) :
    (fill frames t).walk.filterMap read =
      (front [] frames t).filterMap read ++ (visits (around [] frames t) t).filterMap read ++
        (back [] frames t).filterMap read := by
  rw [walk, visitsFilled frames shown, List.filterMap_append, List.filterMap_append]

section Around
variable {source : List Char} {t u : Tree} (alike : t.Alike u)
include alike

theorem containerFilled {above other : List Tree} (container : container? source above = container? source other)
    (f : Frame) (frames : List Frame) :
    container? source (fill (f :: frames) t :: above) = container? source (fill (f :: frames) u :: other) :=
  containerSame rfl (nameFilled (alikeFill alike frames) f source) container

variable (frames : List Frame) {above other : List Tree}
  (container : container? source above = container? source other)
include container

theorem containerAround :
    container? source (around above frames t) = container? source (around other frames u) := by
  induction frames generalizing above other with
  | nil => exact container
  | cons f frames ih => exact ih (containerFilled alike container f frames)

theorem frontFaces (uri : String) :
    (front above frames t).map (face uri source) = (front other frames u).map (face uri source) := by
  induction frames generalizing above other with
  | nil => rfl
  | cons f frames ih =>
    have deeper := containerFilled alike container f frames
    have name := nameFilled (alikeFill alike frames) f source
    have label : (fill (f :: frames) t).label = (fill (f :: frames) u).label := rfl
    have first : face uri source ⟨above, fill (f :: frames) t⟩ = face uri source ⟨other, fill (f :: frames) u⟩ :=
      faceSame label name container uri
    simp only [front, List.map_append, List.map_cons, first, siblingsFaces deeper, ih deeper]

theorem backFaces (uri : String) :
    (back above frames t).map (face uri source) = (back other frames u).map (face uri source) := by
  induction frames generalizing above other with
  | nil => rfl
  | cons f frames ih =>
    have deeper := containerFilled alike container f frames
    simp only [back, List.map_append, siblingsFaces deeper, ih deeper]

end Around

/- A node that is replaced by another with the same span, named as it is, changes in the outline what the
nodes of its own subtree give. What stands before and behind stays, containers included, and the new
subtree stands in the same container. -/
theorem replacementFramed (uri : String) (source : List Char) (frames : List Frame) {old new : Tree}
    (alike : old.Alike new) (shown : old.label.hidden = false) :
    container? source (around [] frames old) = container? source (around [] frames new) ∧
    (∃ before after,
      (Outline.of uri source (fill frames old)).symbols =
        before ++ (visits (around [] frames old) old).filterMap (symbol? uri source) ++ after ∧
      (Outline.of uri source (fill frames new)).symbols =
        before ++ (visits (around [] frames new) new).filterMap (symbol? uri source) ++ after) ∧
    ∃ before after,
      (Outline.of uri source (fill frames old)).diagnostics =
        before ++ (visits (around [] frames old) old).filterMap (diagnostic? source) ++ after ∧
      (Outline.of uri source (fill frames new)).diagnostics =
        before ++ (visits (around [] frames new) new).filterMap (diagnostic? source) ++ after := by
  have container : container? source ([] : List Tree) = container? source [] := rfl
  have also : new.label.hidden = false := alike.hidden ▸ shown
  obtain ⟨symbolsBefore, diagnosticsBefore⟩ := facesSame (frontFaces alike frames container uri)
  obtain ⟨symbolsAfter, diagnosticsAfter⟩ := facesSame (backFaces alike frames container uri)
  refine ⟨containerAround alike frames container, ⟨_, _, walkFilled (symbol? uri source) frames shown, ?_⟩,
    ⟨_, _, walkFilled (diagnostic? source) frames shown, ?_⟩⟩
  · rw [symbolsBefore, symbolsAfter]
    exact walkFilled (symbol? uri source) frames also
  · rw [diagnosticsBefore, diagnosticsAfter]
    exact walkFilled (diagnostic? source) frames also

/- The second statement of `f() { a=1; c=3; b=2; }`, read as an error or as an assignment. -/
def broken : Tree :=
  .node ⟨"ERROR", true, true, false, false, "", 11, 14⟩ []

def mended : Tree :=
  .node ⟨"variable_assignment", true, false, false, false, "", 11, 14⟩
    [.node ⟨"variable_name", true, false, false, false, "name", 11, 12⟩ []]

def bodyFrames : List Frame :=
  [⟨⟨"program", true, false, false, false, "", 0, 22⟩, rfl, [], []⟩,
    ⟨⟨"function_definition", true, false, false, false, "", 0, 22⟩, rfl,
      [.node ⟨"word", true, false, false, false, "name", 0, 1⟩ []], []⟩,
    ⟨⟨"compound_statement", true, false, false, false, "body", 4, 22⟩, rfl,
      [.node ⟨"variable_assignment", true, false, false, false, "", 6, 9⟩
        [.node ⟨"variable_name", true, false, false, false, "name", 6, 7⟩ []]],
      [.node ⟨"variable_assignment", true, false, false, false, "", 16, 19⟩
        [.node ⟨"variable_name", true, false, false, false, "name", 16, 17⟩ []]]⟩]

theorem brokenFramed :
    ∃ before after,
      (Outline.of "file:///a" "f() { a=1; c=3; b=2; }".toList (fill bodyFrames broken)).symbols =
        before ++ [] ++ after ∧
      (Outline.of "file:///a" "f() { a=1; c=3; b=2; }".toList (fill bodyFrames mended)).symbols =
        before ++ [⟨"c", .variable, ⟨⟨0, 11⟩, ⟨0, 14⟩⟩, "file:///a", some "f"⟩] ++ after := by
  have silent : (visits (around [] bodyFrames broken) broken).filterMap
      (symbol? "file:///a" "f() { a=1; c=3; b=2; }".toList) = [] := by decide +kernel
  have declared : (visits (around [] bodyFrames mended) mended).filterMap
      (symbol? "file:///a" "f() { a=1; c=3; b=2; }".toList) =
        [⟨"c", .variable, ⟨⟨0, 11⟩, ⟨0, 14⟩⟩, "file:///a", some "f"⟩] := by decide +kernel
  have alike : broken.Alike mended := ⟨rfl, rfl, rfl, rfl⟩
  have framed := (replacementFramed "file:///a" "f() { a=1; c=3; b=2; }".toList bodyFrames alike rfl).2.1
  rw [silent, declared] at framed
  exact framed

end Tree

end ShellAtlas
