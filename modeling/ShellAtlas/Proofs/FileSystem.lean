import ShellAtlas.Proofs.Path
import ShellAtlas.FileSystem
/-!
Where a path leads. Following its segments through the tree comes to the same place as folding them
by their text: there are no links, and `..` from a directory is the directory it was entered from.
So everything that a path leads to has one absolute path in normal form.
-/
namespace ShellAtlas

/- Names as an operating system admits them: none is empty, holds a slash or stands for a place of
its own. -/
inductive FileNode.Proper : FileNode → Prop where
  | file (content : List UInt8) : Proper (.file content)
  | directory {entries : List (List UInt8 × FileNode)} (names : ∀ e ∈ entries, Path.IsName e.1)
      (below : ∀ e ∈ entries, Proper e.2) : Proper (.directory entries)

inductive FileNode.Distinct : FileNode → Prop where
  | file (content : List UInt8) : Distinct (.file content)
  | directory {entries : List (List UInt8 × FileNode)} (names : (entries.map Prod.fst).Nodup)
      (below : ∀ e ∈ entries, Distinct e.2) : Distinct (.directory entries)

structure FileSystem.Proper (fs : FileSystem) : Prop where
  root : fs.root.Proper
  current : ∀ n ∈ fs.current, Path.IsName n

namespace FileSystem
open ShellAtlas.Path (IsName Component descend dot slash)

inductive Leads (fs : FileSystem) : Trail → Prop where
  | root : Leads fs fs.rootTrail
  | down {name entries above segment next} (before : Leads fs ((name, .directory entries) :: above))
      (proper : IsName segment) (child : (FileNode.directory entries).child? segment = some next) :
      Leads fs ((segment, next) :: (name, .directory entries) :: above)

def names (t : Trail) : List (List UInt8) :=
  t.dropLast.map Prod.fst

theorem namesDown (e f : List UInt8 × FileNode) (above : Trail) :
    names (e :: f :: above) = e.1 :: names (f :: above) := by
  simp [names]

theorem leadsAbove {fs : FileSystem} {e : List UInt8 × FileNode} {above : Trail}
    (leads : fs.Leads (e :: above)) :
    above = [] ∨ fs.Leads above ∧ names above = (names (e :: above)).tail := by
  generalize whole : e :: above = t at leads
  cases leads with
  | root => exact .inl (List.cons.inj whole).2
  | down before proper child =>
    obtain ⟨rfl, rfl⟩ := List.cons.inj whole
    exact .inr ⟨before, by rw [namesDown]; rfl⟩

theorem followLeads {fs : FileSystem} {before after : Trail} {segment : List UInt8}
    (leads : fs.Leads before) (plain : slash ∉ segment) (ok : follow before segment = .ok after) :
    fs.Leads after ∧
    names after = ((Component.ofSegment? segment).toList.foldl descend (names before)) := by
  obtain _ | ⟨⟨name, here⟩, above⟩ := before
  · simp [follow] at ok
  cases here with
  | file content => simp [follow] at ok
  | directory entries =>
    simp only [follow] at ok
    split at ok
    · rename_i stays
      cases Except.ok.inj ok
      refine ⟨leads, ?_⟩
      rcases (by simpa using stays : segment = [] ∨ segment = [dot]) with rfl | rfl <;> rfl
    · rename_i moves
      simp only [Bool.or_eq_true, decide_eq_true_eq, not_or] at moves
      split at ok
      · rename_i up
        subst up
        cases Except.ok.inj ok
        rcases leadsAbove leads with rfl | ⟨before, shorter⟩
        · exact ⟨leads, rfl⟩
        · have filled : above ≠ [] := by
            rintro rfl
            cases before
          simp only [List.isEmpty_iff, filled, if_false]
          exact ⟨before, shorter⟩
      · rename_i notUp
        have proper : IsName segment := ⟨moves.1, moves.2, notUp, plain⟩
        cases child : (FileNode.directory entries).child? segment with
        | none => simp [child] at ok
        | some next =>
          simp only [child] at ok
          cases Except.ok.inj ok
          refine ⟨.down leads proper child, ?_⟩
          rw [namesDown, Path.ofSegmentName proper]
          rfl

theorem segmentsLead {fs : FileSystem} {segments : List (List UInt8)} {before after : Trail}
    (leads : fs.Leads before) (plain : ∀ s ∈ segments, slash ∉ s)
    (ok : segments.foldlM follow before = .ok after) :
    fs.Leads after ∧
    names after = (segments.filterMap Component.ofSegment?).foldl descend (names before) := by
  induction segments generalizing before with
  | nil =>
    cases Except.ok.inj ok
    exact ⟨leads, rfl⟩
  | cons s rest ih =>
    rw [List.foldlM_cons] at ok
    cases first : follow before s with
    | error e => simp [first, bind, Except.bind] at ok
    | ok middle =>
      simp only [first, bind, Except.bind] at ok
      obtain ⟨halfway, step⟩ := followLeads leads (plain s (List.mem_cons_self ..)) first
      obtain ⟨there, later⟩ := ih halfway (fun x inside => plain x (List.mem_cons_of_mem _ inside)) ok
      refine ⟨there, ?_⟩
      rw [later, step, List.filterMap_cons]
      cases Component.ofSegment? s <;> rfl

theorem namesLead {fs : FileSystem} {t : Trail} (leads : fs.Leads t) :
    (names t).reverse.foldlM follow fs.rootTrail = .ok t := by
  induction leads with
  | root => rfl
  | @down name entries above segment next before proper child ih =>
    rw [namesDown, List.reverse_cons, List.foldlM_append, ih]
    simp only [bind, Except.bind, List.foldlM_cons, List.foldlM_nil, follow]
    rw [if_neg (by simp [proper.1, proper.2.1]), if_neg proper.2.2.1, child]
    rfl

theorem leadsEvery {fs : FileSystem} {P : FileNode → Prop} (root : P fs.root)
    (passes : ∀ entries, P (.directory entries) → ∀ e ∈ entries, P e.2) {t : Trail}
    (leads : fs.Leads t) : ∀ e ∈ t, P e.2 := by
  induction leads with
  | root => simpa [rootTrail] using root
  | @down name entries above segment next before _ child ih =>
    intro e member
    rcases List.mem_cons.mp member with rfl | inside
    · have here := ih _ (List.mem_cons_self ..)
      simp only [FileNode.child?, Option.map_eq_some_iff] at child
      obtain ⟨entry, found, rfl⟩ := child
      exact passes entries here entry (List.mem_of_find?_eq_some found)
    · exact ih e inside

theorem leadsProper {fs : FileSystem} (proper : fs.root.Proper) {t : Trail} (leads : fs.Leads t) :
    ∀ e ∈ t, e.2.Proper := by
  refine leadsEvery proper ?_ leads
  intro entries here e member
  cases here with
  | directory _ below => exact below e member

theorem leadsDistinct {fs : FileSystem} (distinct : fs.root.Distinct) {t : Trail} (leads : fs.Leads t) :
    ∀ e ∈ t, e.2.Distinct := by
  refine leadsEvery distinct ?_ leads
  intro entries here e member
  cases here with
  | directory _ below => exact below e member

theorem currentOfNames (fs : FileSystem) : fs.currentPath = Path.ofNames fs.current := rfl

theorem currentAbsolute (fs : FileSystem) : fs.currentPath.isAbsolute = true :=
  Path.ofNamesAbsolute fs.current

theorem currentFound {fs : FileSystem} {here : Path} (found : fs.currentDirectory? = some here) :
    here = fs.currentPath := by
  unfold currentDirectory? at found
  split at found
  · exact (Option.some.inj found).symm
  · contradiction

theorem trailFrom {fs : FileSystem} {p : Path} {t : Trail} (ok : fs.trail p = .ok t) :
    0 ∉ p.bytes ∧ ∃ start, p.segments.foldlM follow start = .ok t ∧
      (p.isAbsolute = true ∧ start = fs.rootTrail ∨
        p.isAbsolute = false ∧ fs.current.foldlM follow fs.rootTrail = .ok start) := by
  simp only [trail] at ok
  split at ok
  · contradiction
  · split at ok
    · contradiction
    · rename_i zero
      refine ⟨by simpa using zero, ?_⟩
      cases absolute : p.isAbsolute with
      | true =>
        simp only [absolute, if_true, bind, Except.bind] at ok
        exact ⟨fs.rootTrail, ok, .inl ⟨rfl, rfl⟩⟩
      | false =>
        simp only [absolute, Bool.false_eq_true, if_false, bind, Except.bind] at ok
        cases start : fs.current.foldlM follow fs.rootTrail with
        | error e => simp [start] at ok
        | ok here =>
          simp only [start] at ok
          exact ⟨here, ok, .inr ⟨rfl, rfl⟩⟩

theorem segmentsFollowed {p : Path} {start t : Trail} (whole : p.segments.foldlM follow start = .ok t) :
    ∃ first next, follow start first = .ok next := by
  have filled : p.segments ≠ [] := List.splitOn_ne_nil slash p.bytes
  obtain ⟨first, rest, parts⟩ := List.exists_cons_of_ne_nil filled
  rw [parts, List.foldlM_cons] at whole
  cases step : follow start first with
  | error e => simp [step, bind, Except.bind] at whole
  | ok next => exact ⟨first, next, step⟩

theorem absentAbsolute {fs : FileSystem} (absent : fs.currentDirectory? = none) {p : Path} {t : Trail}
    (ok : fs.trail p = .ok t) : p.isAbsolute = true := by
  obtain ⟨_, start, whole, ⟨absolute, _⟩ | ⟨_, begun⟩⟩ := trailFrom ok
  · exact absolute
  · -- Only a directory lets the first segment pass.
    obtain ⟨first, next, step⟩ := segmentsFollowed whole
    obtain _ | ⟨⟨name, _ | entries⟩, above⟩ := start
    · simp [follow] at step
    · simp [follow] at step
    · simp [currentDirectory?, begun] at absent

theorem trailStart {fs : FileSystem} (current : ∀ n ∈ fs.current, IsName n) {p : Path} {t : Trail}
    (ok : fs.trail p = .ok t) :
    0 ∉ p.bytes ∧ ∃ start, fs.Leads start ∧
      (names start).reverse = (if p.isAbsolute then [] else fs.current) ∧
      p.segments.foldlM follow start = .ok t := by
  obtain ⟨zero, start, whole, ⟨absolute, rfl⟩ | ⟨relative, begun⟩⟩ := trailFrom ok
  · exact ⟨zero, fs.rootTrail, .root, by rw [absolute]; rfl, whole⟩
  · have plain : ∀ s ∈ fs.current, slash ∉ s := fun s member => (current s member).2.2.2
    obtain ⟨leads, along⟩ := segmentsLead .root plain begun
    have rooted : names fs.rootTrail = [] := rfl
    refine ⟨zero, start, leads, ?_, whole⟩
    rw [along, Path.namesSegments current, Path.descendNames, rooted, relative]
    simp

theorem trailLeads {fs : FileSystem} (current : ∀ n ∈ fs.current, IsName n) {p : Path} {t : Trail}
    (ok : fs.trail p = .ok t) :
    fs.Leads t ∧ (names t).reverse = (fs.currentPath.join p).route := by
  obtain ⟨_, start, begun, first, whole⟩ := trailStart current ok
  obtain ⟨leads, there⟩ := segmentsLead begun (fun _ => Path.segmentPlain) whole
  refine ⟨leads, ?_⟩
  rw [there, List.reverse_eq_iff.mp first]
  cases absolute : p.isAbsolute with
  | true =>
    rw [Path.joinOver absolute]
    rfl
  | false =>
    have joined : (fs.currentPath.join p).inner = fs.currentPath.inner ++ p.inner :=
      Path.joinRelative absolute (Path.absoluteBytes fs.currentAbsolute)
    rw [Path.route, joined, List.foldl_append, currentOfNames, Path.innerOfNames current,
      Path.descendNames]
    simp [Path.inner, Path.segments]

def place? (fs : FileSystem) (p : Path) : Option (List (List UInt8)) :=
  match fs.trail p with
  | .ok t => some (names t).reverse
  | .error _ => none

theorem placeNormal {fs : FileSystem} (current : ∀ n ∈ fs.current, IsName n) {p : Path}
    {place : List (List UInt8)} (leads : fs.place? p = some place) :
    (fs.currentPath.join p).normalize = Path.ofNames place := by
  unfold place? at leads
  split at leads
  · rename_i t ok
    cases Option.some.inj leads
    rw [(trailLeads current ok).2, Path.normalizeAbsolute (Path.joinAbsolute fs.currentAbsolute)]
  · contradiction

theorem placeCanonical {fs : FileSystem} (current : ∀ n ∈ fs.current, IsName n) {p : Path}
    {place : List (List UInt8)} (canonical : p.IsCanonical) (leads : fs.place? p = some place) :
    p = Path.ofNames place := by
  have normal := placeNormal current leads
  rw [Path.joinOver canonical.1, canonical.2] at normal
  exact normal

theorem nodeTrail {fs : FileSystem} {p : Path} {n : FileNode} :
    fs.node p = .ok n ↔ ∃ name above, fs.trail p = .ok ((name, n) :: above) := by
  unfold node
  cases fs.trail p with
  | error e => simp [bind, Except.bind]
  | ok t =>
    cases t with
    | nil => simp [bind, Except.bind]
    | cons e above =>
      obtain ⟨name, m⟩ := e
      simp [bind, Except.bind]

theorem directoryTrail {fs : FileSystem} {p : Path} :
    fs.isDirectory p = true ↔
      ∃ name entries above, fs.trail p = .ok ((name, .directory entries) :: above) := by
  constructor
  · intro there
    unfold isDirectory at there
    split at there
    · rename_i n node
      obtain ⟨name, above, ok⟩ := nodeTrail.mp node
      cases n with
      | file content => contradiction
      | directory entries => exact ⟨name, entries, above, ok⟩
    · contradiction
  · rintro ⟨name, entries, above, ok⟩
    rw [isDirectory, nodeTrail.mpr ⟨name, above, ok⟩]
    rfl

theorem trailBytes {fs : FileSystem} {p : Path} {t : Trail} (ok : fs.trail p = .ok t) : p.bytes ≠ [] := by
  intro empty
  simp [trail, empty] at ok

theorem fileTrail {fs : FileSystem} {p : Path} (file : fs.isFile p = true) :
    ∃ t, fs.trail p = .ok t := by
  cases trail : fs.trail p with
  | error e => simp [isFile, node, trail, bind, Except.bind] at file
  | ok t => exact ⟨t, rfl⟩

theorem placeOfFile {fs : FileSystem} {p : Path} (file : fs.isFile p = true) :
    ∃ place, fs.place? p = some place := by
  obtain ⟨t, ok⟩ := fileTrail file
  exact ⟨_, by rw [place?, ok]⟩

theorem trailAbsolute {fs : FileSystem} {p : Path} (absolute : p.isAbsolute = true) {t : Trail} :
    fs.trail p = .ok t ↔ 0 ∉ p.bytes ∧ p.segments.foldlM follow fs.rootTrail = .ok t := by
  simp only [trail, Path.absoluteBytes absolute, if_false, absolute, if_true]
  by_cases zero : 0 ∈ p.bytes
  · simp [zero]
  · simp [zero, bind, Except.bind]

theorem rootEntered {fs : FileSystem} {t after : Trail} {segment : List UInt8} (leads : fs.Leads t)
    (ok : follow t segment = .ok after) : follow fs.rootTrail [] = .ok fs.rootTrail := by
  induction leads generalizing segment after with
  | root =>
    cases root : fs.root with
    | file content => simp [follow, rootTrail, root] at ok
    | directory entries => simp [follow, rootTrail, root]
  | @down name entries above _ _ before _ _ ih =>
    have stays : follow ((name, .directory entries) :: above) [] =
        .ok ((name, .directory entries) :: above) := by simp [follow]
    exact ih stays

theorem trailEntered {fs : FileSystem} (current : ∀ n ∈ fs.current, IsName n) {p : Path} {t : Trail}
    (ok : fs.trail p = .ok t) : follow fs.rootTrail [] = .ok fs.rootTrail := by
  obtain ⟨_, start, begun, _, whole⟩ := trailStart current ok
  obtain ⟨first, next, step⟩ := segmentsFollowed whole
  exact rootEntered begun step

theorem trailOfNames {fs : FileSystem} (current : ∀ n ∈ fs.current, IsName n) {p : Path} {t : Trail}
    (ok : fs.trail p = .ok t) (clean : ∀ n ∈ (fs.currentPath.join p).route, 0 ∉ n) :
    fs.trail (Path.ofNames (fs.currentPath.join p).route) = .ok t := by
  obtain ⟨leads, there⟩ := trailLeads current ok
  have entered := trailEntered current ok
  have again := namesLead leads
  rw [there] at again
  rw [trailAbsolute (Path.ofNamesAbsolute _)]
  constructor
  · rw [Path.ofNamesBytes]
    intro zero
    rcases List.mem_cons.mp zero with same | inside
    · exact absurd same (by decide)
    · rcases Path.memIntercalate inside with same | ⟨n, member, byte⟩
      · exact absurd same (by decide)
      · exact clean n member byte
  · by_cases empty : (fs.currentPath.join p).route = []
    · rw [empty] at again ⊢
      have twice : (Path.ofNames []).segments = [[], []] := by decide
      rw [twice, List.foldlM_cons, entered]
      simp only [bind, Except.bind, List.foldlM_cons, entered]
      exact again
    · rw [Path.ofNamesSegments (Path.routeProper _) empty, List.foldlM_cons, entered]
      exact again

theorem trailNormal {fs : FileSystem} (current : ∀ n ∈ fs.current, IsName n) {p : Path} {t : Trail}
    (absolute : p.isAbsolute = true) (ok : fs.trail p = .ok t) : fs.trail p.normalize = .ok t := by
  have whole := trailOfNames current ok
  rw [Path.joinOver absolute] at whole
  rw [Path.normalizeAbsolute absolute]
  exact whole fun n member byte => (trailStart current ok).1 (Path.routeByte member byte)

theorem fileNormal {fs : FileSystem} (current : ∀ n ∈ fs.current, IsName n) {p : Path}
    (absolute : p.isAbsolute = true) (file : fs.isFile p = true) : fs.isFile p.normalize = true := by
  obtain ⟨t, ok⟩ := fileTrail file
  have normal := trailNormal current absolute ok
  rw [isFile, node, normal]
  rw [isFile, node, ok] at file
  exact file

end FileSystem

end ShellAtlas
