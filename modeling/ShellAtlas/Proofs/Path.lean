import Mathlib.Data.List.Basic
import ShellAtlas.Path
/-!
Components, spellings and normal forms of paths. What a path says is the list of its components, and
the shortest spelling of solid components says just these. An absolute path in normal form is the
root and names below it, and nothing else.
-/
namespace ShellAtlas.Path

def IsName (n : List UInt8) : Prop :=
  n ≠ [] ∧ n ≠ [dot] ∧ n ≠ [dot, dot] ∧ slash ∉ n
instance (n : List UInt8) : Decidable (IsName n) := by unfold IsName; infer_instance

def Component.Solid : Component → Prop
  | .up => True
  | .name n => IsName n
  | _ => False

theorem ofSegmentName {n : List UInt8} (proper : IsName n) :
    Component.ofSegment? n = some (.name n) := by
  obtain ⟨filled, notHere, notUp, _⟩ := proper
  simp [Component.ofSegment?, filled, notHere, notUp]

theorem ofSegmentSolid {s : List UInt8} {c : Component} (plain : slash ∉ s)
    (read : Component.ofSegment? s = some c) : c.Solid ∧ c.bytes = s := by
  unfold Component.ofSegment? at read
  split at read
  · contradiction
  · split at read
    · contradiction
    · split at read
      · rename_i up
        cases Option.some.inj read
        exact ⟨trivial, up.symm⟩
      · cases Option.some.inj read
        exact ⟨⟨by assumption, by assumption, by assumption, plain⟩, rfl⟩

theorem ofSegmentBytes {c : Component} (solid : c.Solid) : Component.ofSegment? c.bytes = some c := by
  cases c with
  | root => exact solid.elim
  | here => exact solid.elim
  | up => rfl
  | name n => exact ofSegmentName solid

theorem bytesPlain {c : Component} (solid : c.Solid) : slash ∉ c.bytes ∧ c.bytes ≠ [] := by
  cases c with
  | root => exact solid.elim
  | here => exact solid.elim
  | up => exact ⟨by decide, by decide⟩
  | name n => exact ⟨solid.2.2.2, solid.1⟩

theorem bytesInjective {c d : Component} (left : c.Solid) (right : d.Solid)
    (same : c.bytes = d.bytes) : c = d := by
  have read := ofSegmentBytes left
  rw [same, ofSegmentBytes right] at read
  exact (Option.some.inj read).symm

theorem segmentByte {bs s : List UInt8} {b : UInt8} (member : s ∈ bs.splitOn slash) (byte : b ∈ s) :
    b ∈ bs ∧ b ≠ slash := by
  induction bs generalizing s with
  | nil => simp_all
  | cons x rest ih =>
    rw [List.splitOn_cons_eq_if_modifyHead] at member
    split at member
    · rcases List.mem_cons.mp member with rfl | inside
      · simp at byte
      · exact (ih inside byte).imp_left (List.mem_cons_of_mem _)
    · rename_i other
      cases parts : rest.splitOn slash with
      | nil => simp [parts] at member
      | cons first more =>
        rw [parts, List.modifyHead_cons] at member
        rcases List.mem_cons.mp member with rfl | inside
        · rcases List.mem_cons.mp byte with rfl | later
          · exact ⟨List.mem_cons_self .., by simpa using other⟩
          · have found := ih (parts ▸ List.mem_cons_self ..) later
            exact found.imp_left (List.mem_cons_of_mem _)
        · have found := ih (parts ▸ List.mem_cons_of_mem _ inside) byte
          exact found.imp_left (List.mem_cons_of_mem _)

theorem segmentPlain {bs s : List UInt8} (member : s ∈ bs.splitOn slash) : slash ∉ s :=
  fun byte => (segmentByte member byte).2 rfl

theorem memIntercalate {α : Type} {x y : α} {ls : List (List α)} (member : x ∈ [y].intercalate ls) :
    x = y ∨ ∃ l ∈ ls, x ∈ l := by
  match ls with
  | [] => simp at member
  | [l] => exact .inr ⟨l, by simp, by simpa using member⟩
  | l :: next :: rest =>
    rw [List.intercalate_cons_cons, List.append_assoc, List.mem_append, List.mem_append] at member
    rcases member with here | between | behind
    · exact .inr ⟨l, by simp, here⟩
    · exact .inl (List.mem_singleton.mp between)
    · rcases memIntercalate behind with same | ⟨m, inside, found⟩
      · exact .inl same
      · exact .inr ⟨m, List.mem_cons_of_mem _ inside, found⟩

def inner (p : Path) : List Component :=
  p.segments.filterMap Component.ofSegment?

theorem innerSolid {p : Path} {c : Component} (member : c ∈ p.inner) : c.Solid := by
  obtain ⟨s, inside, read⟩ := List.mem_filterMap.mp member
  exact (ofSegmentSolid (segmentPlain inside) read).1

theorem componentsAbsolute {p : Path} (absolute : p.isAbsolute = true) :
    p.components = .root :: p.inner := by
  simp [components, absolute, inner]

def ofNames (ns : List (List UInt8)) : Path :=
  ofComponents (.root :: ns.map .name)

theorem rootedBytes (cs : List Component) :
    (ofComponents (.root :: cs)).bytes = slash :: [slash].intercalate (cs.map Component.bytes) := by
  cases cs with
  | nil => rfl
  | cons c rest => simp [ofComponents, List.intercalate, Component.bytes]

theorem rootedAbsolute (cs : List Component) : (ofComponents (.root :: cs)).isAbsolute = true := by
  simp [isAbsolute, rootedBytes]

theorem solidSegments {cs : List Component} (solid : ∀ c ∈ cs, c.Solid) :
    (cs.map Component.bytes).filterMap Component.ofSegment? = cs := by
  induction cs with
  | nil => rfl
  | cons c rest ih =>
    rw [List.map_cons, List.filterMap_cons, ofSegmentBytes (solid c (List.mem_cons_self ..))]
    simp only [ih fun d inside => solid d (List.mem_cons_of_mem _ inside)]

theorem solidPlain {cs : List Component} (solid : ∀ c ∈ cs, c.Solid) :
    ∀ s ∈ cs.map Component.bytes, slash ∉ s := by
  intro s member
  obtain ⟨c, inside, rfl⟩ := List.mem_map.mp member
  exact (bytesPlain (solid c inside)).1

theorem rootedInner {cs : List Component} (solid : ∀ c ∈ cs, c.Solid) :
    (ofComponents (.root :: cs)).inner = cs := by
  have leading : (ofComponents (.root :: cs)).inner =
      (([slash].intercalate (cs.map Component.bytes)).splitOn slash).filterMap
        Component.ofSegment? := by
    rw [inner, segments, rootedBytes, List.splitOn_cons_eq_if_modifyHead]
    rfl
  rw [leading]
  cases cs with
  | nil => rfl
  | cons c rest =>
    rw [List.splitOn_intercalate slash (solidPlain solid) (by simp)]
    exact solidSegments solid

theorem namesSolid {ns : List (List UInt8)} (proper : ∀ n ∈ ns, IsName n) :
    ∀ c ∈ ns.map Component.name, c.Solid := by
  intro c member
  obtain ⟨n, inside, rfl⟩ := List.mem_map.mp member
  exact proper n inside

theorem ofNamesAbsolute (ns : List (List UInt8)) : (ofNames ns).isAbsolute = true :=
  rootedAbsolute _

theorem ofNamesBytes (ns : List (List UInt8)) :
    (ofNames ns).bytes = slash :: [slash].intercalate ns := by
  rw [ofNames, rootedBytes, List.map_map]
  exact congrArg (fun l => slash :: [slash].intercalate l) (List.map_id ns)

theorem ofNamesSegments {ns : List (List UInt8)} (proper : ∀ n ∈ ns, IsName n) (filled : ns ≠ []) :
    (ofNames ns).segments = [] :: ns := by
  rw [segments, ofNamesBytes, List.splitOn_cons_eq_if_modifyHead, if_pos (by simp),
    List.splitOn_intercalate slash (fun n member => (proper n member).2.2.2) filled]

theorem innerOfNames {ns : List (List UInt8)} (proper : ∀ n ∈ ns, IsName n) :
    (ofNames ns).inner = ns.map .name :=
  rootedInner (namesSolid proper)

theorem namesSegments {ns : List (List UInt8)} (proper : ∀ n ∈ ns, IsName n) :
    ns.filterMap Component.ofSegment? = ns.map .name := by
  have read := solidSegments (namesSolid proper)
  rw [List.map_map] at read
  simpa [Function.comp_def, Component.bytes] using read

theorem componentsOfNames {ns : List (List UInt8)} (proper : ∀ n ∈ ns, IsName n) :
    (ofNames ns).components = .root :: ns.map .name := by
  rw [componentsAbsolute (ofNamesAbsolute ns), innerOfNames proper]

def descend (names : List (List UInt8)) : Component → List (List UInt8)
  | .up => names.tail
  | .name n => n :: names
  | _ => names

theorem foldRooted {cs : List Component} (solid : ∀ c ∈ cs, c.Solid) (names : List (List UInt8)) :
    cs.foldl foldComponent (names.map .name ++ [.root]) =
      (cs.foldl descend names).map .name ++ [.root] := by
  induction cs generalizing names with
  | nil => rfl
  | cons c rest ih =>
    have later := ih fun d inside => solid d (List.mem_cons_of_mem _ inside)
    rw [List.foldl_cons, List.foldl_cons, ← later]
    congr 1
    cases c with
    | root => exact (solid _ (List.mem_cons_self ..)).elim
    | here => exact (solid _ (List.mem_cons_self ..)).elim
    | up => cases names <;> rfl
    | name n => rfl

theorem descendProper {cs : List Component} (solid : ∀ c ∈ cs, c.Solid) {names : List (List UInt8)}
    (proper : ∀ n ∈ names, IsName n) : ∀ n ∈ cs.foldl descend names, IsName n := by
  induction cs generalizing names with
  | nil => exact proper
  | cons c rest ih =>
    apply ih fun d inside => solid d (List.mem_cons_of_mem _ inside)
    cases c with
    | root => exact (solid _ (List.mem_cons_self ..)).elim
    | here => exact (solid _ (List.mem_cons_self ..)).elim
    | up => exact fun n inside => proper n (List.mem_of_mem_tail inside)
    | name n =>
      intro m inside
      rcases List.mem_cons.mp inside with rfl | before
      · exact solid _ (List.mem_cons_self ..)
      · exact proper m before

theorem descendNames (names before : List (List UInt8)) :
    (names.map Component.name).foldl descend before = names.reverse ++ before := by
  induction names generalizing before with
  | nil => rfl
  | cons n rest ih => simp [descend, ih]

theorem descendMember {cs : List Component} {names : List (List UInt8)} {n : List UInt8}
    (member : n ∈ cs.foldl descend names) : n ∈ names ∨ .name n ∈ cs := by
  induction cs generalizing names with
  | nil => exact .inl member
  | cons c rest ih =>
    rcases ih member with before | later
    · cases c with
      | root => exact .inl before
      | here => exact .inl before
      | up => exact .inl (List.mem_of_mem_tail before)
      | name m =>
        rcases List.mem_cons.mp before with rfl | inside
        · exact .inr (List.mem_cons_self ..)
        · exact .inl inside
    · exact .inr (List.mem_cons_of_mem _ later)

def route (p : Path) : List (List UInt8) :=
  (p.inner.foldl descend []).reverse

theorem routeProper (p : Path) : ∀ n ∈ p.route, IsName n := by
  intro n member
  exact descendProper (fun _ => innerSolid) (by simp) n (List.mem_reverse.mp member)

theorem routeByte {p : Path} {n : List UInt8} {b : UInt8} (member : n ∈ p.route) (byte : b ∈ n) :
    b ∈ p.bytes := by
  rcases descendMember (List.mem_reverse.mp member) with none | inside
  · simp at none
  · obtain ⟨s, within, read⟩ := List.mem_filterMap.mp inside
    have same : n = s := (ofSegmentSolid (segmentPlain within) read).2
    exact (segmentByte within (same ▸ byte)).1

theorem foldAbsolute {p : Path} (absolute : p.isAbsolute = true) :
    foldComponents p.components = .root :: p.route.map .name := by
  rw [componentsAbsolute absolute, foldComponents, List.foldl_cons]
  have folded := foldRooted (fun c (member : c ∈ p.inner) => innerSolid member) []
  simp only [List.map_nil, List.nil_append] at folded
  rw [show foldComponent [] .root = [.root] from rfl, folded]
  simp [route]

theorem normalizeAbsolute {p : Path} (absolute : p.isAbsolute = true) :
    p.normalize = ofNames p.route := by
  rw [normalize, foldAbsolute absolute]
  rfl

theorem routeOfNames {ns : List (List UInt8)} (proper : ∀ n ∈ ns, IsName n) :
    (ofNames ns).route = ns := by
  rw [route, innerOfNames proper, descendNames]
  simp

theorem normalizeOfNames {ns : List (List UInt8)} (proper : ∀ n ∈ ns, IsName n) :
    (ofNames ns).normalize = ofNames ns := by
  rw [normalizeAbsolute (ofNamesAbsolute ns), routeOfNames proper]

def IsCanonical (p : Path) : Prop :=
  p.isAbsolute = true ∧ p.normalize = p
instance (p : Path) : Decidable p.IsCanonical := by unfold IsCanonical; infer_instance

theorem canonicalOfNames {ns : List (List UInt8)} (proper : ∀ n ∈ ns, IsName n) :
    (ofNames ns).IsCanonical :=
  ⟨ofNamesAbsolute ns, normalizeOfNames proper⟩

theorem canonicalRoute {p : Path} (canonical : p.IsCanonical) : p = ofNames p.route :=
  canonical.2.symm.trans (normalizeAbsolute canonical.1)

theorem normalizeCanonical {p : Path} (absolute : p.isAbsolute = true) : p.normalize.IsCanonical := by
  rw [normalizeAbsolute absolute]
  exact canonicalOfNames (routeProper p)

theorem canonicalComponents {p : Path} (canonical : p.IsCanonical) :
    ofComponents p.components = p := by
  rw [canonicalRoute canonical, componentsOfNames (routeProper p)]
  rfl

theorem parentAbsolute {p base : Path} (absolute : p.isAbsolute = true) (parent : p.parent? = some base) :
    base.isAbsolute = true := by
  have components := componentsAbsolute absolute
  unfold parent? at parent
  split at parent
  · contradiction
  · contradiction
  · rename_i last ending
    rw [components] at parent ending
    have filled : p.inner ≠ [] := by
      intro empty
      rw [empty] at ending
      simp_all
    rw [List.dropLast_cons_of_ne_nil filled] at parent
    rw [← Option.some.inj parent]
    exact rootedAbsolute _

theorem parentEq {p q : Path} (same : p.components = q.components) : p.parent? = q.parent? := by
  rw [parent?, parent?, same]

theorem closedInner (bs : List UInt8) : (Path.mk (bs ++ [slash])).inner = (Path.mk bs).inner := by
  have parts : (bs ++ [slash]).splitOn slash = bs.splitOn slash ++ [[]] :=
    List.splitOn_append_cons_self bs []
  simp [inner, segments, parts, Component.ofSegment?]

theorem joinSpelled {base p : Path} (relative : p.isAbsolute = false) (filled : base.bytes ≠ []) :
    ∃ front, (base.bytes = front ∨ base.bytes = front ++ [slash]) ∧
      base.join p = ⟨front ++ slash :: p.bytes⟩ := by
  unfold join
  rw [if_neg (by simp [relative]), if_neg filled]
  split
  · rename_i closed
    obtain ⟨front, whole⟩ := List.getLast?_eq_some_iff.mp closed
    exact ⟨front, .inr whole, by simp [whole]⟩
  · exact ⟨base.bytes, .inl rfl, rfl⟩

theorem joinRelative {base p : Path} (relative : p.isAbsolute = false) (filled : base.bytes ≠ []) :
    (base.join p).inner = base.inner ++ p.inner := by
  obtain ⟨front, spelled, joined⟩ := joinSpelled relative filled
  have same : base.inner = (Path.mk front).inner := by
    rcases spelled with whole | closed
    · rw [← whole]
    · rw [← closedInner front, ← closed]
  rw [joined, same]
  simp [inner, segments, List.splitOn_append_cons_self]

theorem joinComponents {base p : Path} (relative : p.isAbsolute = false) (filled : base.bytes ≠ []) :
    (base.join p).components = base.components ++ p.inner := by
  obtain ⟨front, spelled, joined⟩ := joinSpelled relative filled
  have absolute : (base.join p).isAbsolute = base.isAbsolute := by
    rw [joined]
    rcases spelled with whole | closed
    · obtain ⟨b, rest, bytes⟩ := List.exists_cons_of_ne_nil filled
      simp [isAbsolute, ← whole, bytes]
    · cases front <;> simp [isAbsolute, closed]
  have first : (base.join p).segments.head? = base.segments.head? := by
    have parts : front.splitOn slash ≠ [] := List.splitOn_ne_nil slash front
    rw [joined]
    rcases spelled with whole | closed
    · simp [segments, whole, List.splitOn_append_cons_self, List.head?_append_of_ne_nil _ parts]
    · simp [segments, closed, List.splitOn_append_cons_self, List.head?_append_of_ne_nil _ parts]
  have inside : (base.join p).segments.filterMap Component.ofSegment? =
      base.segments.filterMap Component.ofSegment? ++ p.inner := joinRelative relative filled
  rw [components, components, absolute, first, inside]
  split
  · rfl
  · split <;> rfl

theorem absoluteBytes {p : Path} (absolute : p.isAbsolute = true) : p.bytes ≠ [] := by
  intro empty
  simp [isAbsolute, empty] at absolute

theorem joinAbsolute {base p : Path} (absolute : base.isAbsolute = true) :
    (base.join p).isAbsolute = true := by
  unfold join
  split
  · assumption
  · rw [if_neg (absoluteBytes absolute)]
    obtain ⟨bytes⟩ := base
    cases bytes with
    | nil => simp [isAbsolute] at absolute
    | cons b rest => split <;> exact absolute

theorem joinOver {base p : Path} (absolute : p.isAbsolute = true) : base.join p = p := by
  simp [join, absolute]

theorem intercalateAppend {α : Type} (x : α) {ls ms : List (List α)} (left : ls ≠ []) (right : ms ≠ []) :
    [x].intercalate (ls ++ ms) = [x].intercalate ls ++ x :: [x].intercalate ms := by
  induction ls with
  | nil => exact absurd rfl left
  | cons l rest ih =>
    rw [List.cons_append]
    by_cases empty : rest = []
    · rw [empty, List.nil_append, List.intercalate_cons_of_ne_nil right]
      simp
    · rw [List.intercalate_cons_of_ne_nil empty, List.intercalate_cons_of_ne_nil (by simp [empty]),
        ih empty]
      simp

theorem namesRelative {ms : List (List UInt8)} (proper : ∀ n ∈ ms, IsName n) (filled : ms ≠ []) :
    (Path.mk ([slash].intercalate ms)).isAbsolute = false := by
  obtain ⟨m, rest, rfl⟩ := List.exists_cons_of_ne_nil filled
  obtain ⟨nonempty, _, _, plain⟩ := proper m (List.mem_cons_self ..)
  obtain ⟨b, bs, rfl⟩ := List.exists_cons_of_ne_nil nonempty
  have other : b ≠ slash := fun same => plain (same ▸ List.mem_cons_self ..)
  cases rest with
  | nil => simp [isAbsolute, other]
  | cons next more => simp [isAbsolute, List.intercalate_cons_cons, other]

theorem namesInner {ms : List (List UInt8)} (proper : ∀ n ∈ ms, IsName n) (filled : ms ≠ []) :
    (Path.mk ([slash].intercalate ms)).inner = ms.map .name := by
  rw [inner, segments, List.splitOn_intercalate slash (fun n member => (proper n member).2.2.2) filled,
    namesSegments proper]

theorem joinNames {ns ms : List (List UInt8)} (base : ∀ n ∈ ns, IsName n) (proper : ∀ n ∈ ms, IsName n)
    (filled : ms ≠ []) : (ofNames ns).join ⟨[slash].intercalate ms⟩ = ofNames (ns ++ ms) := by
  have relative := namesRelative proper filled
  rw [join, if_neg (by simp [relative]), if_neg (absoluteBytes (ofNamesAbsolute ns)), ofNamesBytes]
  obtain rfl | ⟨front, last, rfl⟩ := List.eq_nil_or_concat ns
  · rw [if_pos (by decide)]
    exact congrArg Path.mk (ofNamesBytes ms).symm
  · -- The last byte is one of the last name's, so a slash has to be set between.
    rw [List.concat_eq_append] at base ⊢
    obtain ⟨nonempty, _, _, plain⟩ := base last (by simp)
    have ending : (slash :: [slash].intercalate (front ++ [last])).getLast? = last.getLast? := by
      by_cases empty : front = []
      · rw [empty, List.nil_append, List.intercalate_singleton, ← List.singleton_append,
          List.getLast?_append_of_ne_nil _ nonempty]
      · rw [intercalateAppend slash empty (by simp), List.intercalate_singleton, ← List.cons_append,
          ← List.singleton_append (l := last), ← List.append_assoc,
          List.getLast?_append_of_ne_nil _ nonempty]
    rw [if_neg fun closed => plain (List.mem_of_getLast? (ending ▸ closed))]
    have whole := ofNamesBytes (front ++ [last] ++ ms)
    rw [intercalateAppend slash (by simp) filled, ← List.cons_append] at whole
    exact congrArg Path.mk whole.symm

theorem parentOfNames {ns : List (List UInt8)} {n : List UInt8} (proper : ∀ m ∈ ns ++ [n], IsName m) :
    (ofNames (ns ++ [n])).parent? = some (ofNames ns) := by
  have components : (ofNames (ns ++ [n])).components = (.root :: ns.map .name) ++ [.name n] := by
    simp [componentsOfNames proper]
  rw [parent?, components, List.getLast?_concat, List.dropLast_concat]
  rfl

theorem stemWhole {n : List UInt8} (bare : extensionOf? n = none) : stemOf n = n := by
  unfold extensionOf? at bare
  unfold stemOf
  match tail : n.reverse.dropWhile (· ≠ dot) with
  | [] => rfl
  | [_] => rfl
  | _ :: _ :: _ =>
    rw [tail] at bare
    contradiction

theorem withExtensionBare {p : Path} {cs : List Component} {n : List UInt8} {extension : List UInt8}
    (components : p.components = cs ++ [.name n]) (bare : p.extension? = none)
    (filled : extension ≠ []) :
    p.withExtension extension = ofComponents (cs ++ [.name (n ++ dot :: extension)]) := by
  have name : p.fileName? = some n := by simp [fileName?, components]
  have whole : stemOf n = n := by
    apply stemWhole
    simpa [extension?, name] using bare
  simp [withExtension, name, filled, whole, components]

theorem fileNameLast {p : Path} {n : List UInt8} (named : p.fileName? = some n) :
    ∃ cs, p.components = cs ++ [.name n] := by
  unfold fileName? at named
  split at named
  · rename_i m last
    cases Option.some.inj named
    exact List.getLast?_eq_some_iff.mp last
  · contradiction

theorem withExtensionCases {p : Path} (bare : p.extension? = none) {extension : List UInt8}
    (filled : extension ≠ []) :
    p.withExtension extension = p ∨
      ∃ cs n, p.components = cs ++ [.name n] ∧
        p.withExtension extension = ofComponents (cs ++ [.name (n ++ dot :: extension)]) := by
  cases named : p.fileName? with
  | none =>
    left
    rw [withExtension, named]
  | some n =>
    obtain ⟨cs, components⟩ := fileNameLast named
    exact .inr ⟨cs, n, components, withExtensionBare components bare filled⟩

theorem withExtensionAbsolute {p : Path} (absolute : p.isAbsolute = true) (extension : List UInt8) :
    (p.withExtension extension).isAbsolute = true := by
  unfold withExtension
  split
  · exact absolute
  · rename_i n name
    have filled : p.inner ≠ [] := by
      intro empty
      simp [fileName?, componentsAbsolute absolute, empty] at name
    rw [componentsAbsolute absolute, List.dropLast_cons_of_ne_nil filled]
    exact rootedAbsolute _

theorem foldStepMember {done : List Component} {c d : Component} (member : c ∈ foldComponent done d) :
    c ∈ done ∨ c = d ∧ d ≠ .here := by
  cases d with
  | root => simpa [foldComponent, or_comm] using member
  | here => exact .inl member
  | name n => simpa [foldComponent, or_comm] using member
  | up =>
    simp only [foldComponent] at member
    split at member
    · exact .inl (List.mem_cons_of_mem _ member)
    · exact .inl member
    · simpa [or_comm] using member

theorem foldMember {cs done : List Component} {c : Component}
    (member : c ∈ cs.foldl foldComponent done) : c ∈ done ∨ c ∈ cs ∧ c ≠ .here := by
  induction cs generalizing done with
  | nil => exact .inl member
  | cons d rest ih =>
    rcases ih member with before | ⟨later, moves⟩
    · rcases foldStepMember before with inside | ⟨rfl, moves⟩
      · exact .inl inside
      · exact .inr ⟨List.mem_cons_self .., moves⟩
    · exact .inr ⟨List.mem_cons_of_mem _ later, moves⟩

theorem foldComponentsMember {cs : List Component} {c : Component} (member : c ∈ foldComponents cs) :
    c ∈ cs ∧ c ≠ .here := by
  rcases foldMember (List.mem_reverse.mp member) with none | found
  · contradiction
  · exact found

theorem relativeComponent {p : Path} (relative : p.isAbsolute = false) {c : Component}
    (member : c ∈ p.components) : c = .here ∨ c ∈ p.inner := by
  unfold components at member
  rw [if_neg (by simp [relative])] at member
  split at member
  · exact List.mem_cons.mp member
  · exact .inr member

theorem foldedSolid {p : Path} (relative : p.isAbsolute = false) :
    ∀ c ∈ foldComponents p.components, c.Solid := by
  intro c member
  obtain ⟨kept, other⟩ := foldComponentsMember member
  rcases relativeComponent relative kept with here | inside
  · exact absurd here other
  · exact innerSolid inside

theorem normalizeRelative {p : Path} (relative : p.isAbsolute = false) :
    ∃ cs, (∀ c ∈ cs, c.Solid) ∧ p.normalize = ofComponents cs :=
  ⟨_, foldedSolid relative, rfl⟩

section Loose
variable {cs : List Component} (solid : ∀ c ∈ cs, c.Solid)
include solid

theorem looseBytes : (ofComponents cs).bytes = [slash].intercalate (cs.map Component.bytes) := by
  unfold ofComponents
  split
  · rename_i root
    exact (solid .root (by simp [root])).elim
  · rfl

theorem looseSegments (filled : cs ≠ []) : (ofComponents cs).segments = cs.map Component.bytes := by
  rw [segments, looseBytes solid]
  exact List.splitOn_intercalate slash (solidPlain solid) (by simpa using filled)

theorem looseRelative : (ofComponents cs).isAbsolute = false := by
  cases cs with
  | nil => rfl
  | cons c rest =>
    obtain ⟨plain, filled⟩ := bytesPlain (solid c (List.mem_cons_self ..))
    obtain ⟨b, more, spelled⟩ := List.exists_cons_of_ne_nil filled
    have other : b ≠ slash := fun same => plain (by simp [spelled, same])
    rw [isAbsolute, looseBytes solid]
    cases rest <;> simp [spelled, other, List.intercalate_cons_cons]

theorem looseComponents : (ofComponents cs).components = cs := by
  by_cases filled : cs = []
  · subst filled
    rfl
  · have first : (ofComponents cs).segments.head? ≠ some [dot] := by
      rw [looseSegments solid filled, List.head?_map]
      intro here
      obtain ⟨c, member, spelled⟩ := Option.map_eq_some_iff.mp here
      have read := ofSegmentBytes (solid c (List.mem_of_mem_head? member))
      rw [spelled] at read
      contradiction
    rw [components, looseRelative solid, if_neg (by simp), if_neg first, looseSegments solid filled]
    exact solidSegments solid

end Loose

end ShellAtlas.Path
