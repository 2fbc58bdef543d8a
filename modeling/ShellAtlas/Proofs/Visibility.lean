import ShellAtlas.Proofs.Closure
import ShellAtlas.Proofs.Naming
/-!
What is visible in an index just made from a root, where only sourced files are searched. All of
its documents were resolved against the file system that the scan listed, so a resolved URI names a
file, an unresolved one names none, and no URI is both. The search along the sourcing edges then
finds everything that resolved edges lead to, and an unresolved edge leads to no document.
-/
namespace ShellAtlas

namespace Document

theorem addTargetMember {s t : Target} {ts : List Target} (member : s ∈ addTarget t ts) :
    s = t ∨ s ∈ ts := by
  induction ts with
  | nil => exact .inl (List.mem_singleton.mp member)
  | cons x rest ih =>
    simp only [addTarget] at member
    split at member
    · exact List.mem_cons.mp member
    · exact .inr member
    · rcases List.mem_cons.mp member with rfl | later
      · exact .inr (List.mem_cons_self ..)
      · exact (ih later).imp_right (List.mem_cons_of_mem _)

theorem targetSetMember {s : Target} {ts : List Target} (member : s ∈ targetSet ts) : s ∈ ts := by
  induction ts using List.reverseRecOn with
  | nil => exact member
  | append_singleton ts t ih =>
    rw [targetSet, List.foldl_append] at member
    rcases addTargetMember member with rfl | before
    · simp
    · exact List.mem_append_left _ (ih before)

theorem buildTarget {parse : String → Tree} {fs : FileSystem} {extension uri content : String}
    {t : Target} (member : t ∈ (build parse fs extension uri content).targets) :
    ∃ raw, t = Sourcing.resolve fs extension raw uri := by
  obtain ⟨statement, inside, rfl⟩ := List.mem_map.mp (targetSetMember member)
  obtain ⟨argument, _, rfl⟩ := List.mem_map.mp inside
  exact ⟨argument.raw, rfl⟩

end Document

namespace Atlas
open ShellAtlas.Path (IsName)

theorem acceptedFile {s : Settings} {fs : FileSystem} {p : Path} {text : String}
    (accepted : History.accepted? s fs p = some text) : fs.isFile p = true := by
  unfold History.accepted? at accepted
  split at accepted
  · rename_i n content node read
    cases n with
    | file bytes => simp [FileSystem.isFile, node, FileNode.isFile]
    | directory entries => simp [FileSystem.readText, node, bind, Except.bind] at read
  · contradiction

def Grounded (fs : FileSystem) (a : Atlas) : Prop :=
  ∀ uri d, a.document? uri = some d →
    ∃ p base extension, p.IsCanonical ∧ p.parent? = some base ∧ fs.isFile p = true ∧ p.uri = uri ∧
      ∀ t ∈ d.targets, ∃ raw, t = Sourcing.resolve fs extension raw p.uri

theorem freshGrounded {fs : FileSystem} (proper : fs.Proper) (settings : Settings)
    (parse : String → Tree) (depth : Option Nat) (root : Path) (clock : Clock) :
    Grounded fs (ofRoot settings parse fs (Discovery.list fs · · depth) root clock).1 := by
  intro uri d entry
  obtain ⟨paths, listed, p, inside, text, accepted, rfl, rfl⟩ := freshOrigin entry
  obtain ⟨ns, filled, names, rfl⟩ :=
    Discovery.listedPath proper (Naming.scanRootCanonical listed) listed inside
  obtain rfl | ⟨front, last, rfl⟩ := List.eq_nil_or_concat ns
  · exact absurd rfl filled
  · rw [List.concat_eq_append] at names accepted ⊢
    exact ⟨_, _, settings.scriptExtension, Path.canonicalOfNames names, Path.parentOfNames names,
      acceptedFile accepted, rfl, fun _ => Document.buildTarget⟩

theorem fileOfUri {fs : FileSystem} (current : ∀ n ∈ fs.current, IsName n) {p q : Path}
    (absolute : p.isAbsolute = true) (canonical : q.IsCanonical) (same : p.uri = q.uri)
    (file : fs.isFile p = true) : fs.isFile q = true := by
  have components := (FileUri.uriEqIff absolute canonical.1).mp same
  have normal : p.normalize = q := by
    rw [Path.normalize, components]
    exact canonical.2
  rw [← normal]
  exact FileSystem.fileNormal current absolute file

theorem resolvedFile {fs : FileSystem} {p base : Path} (canonical : p.IsCanonical)
    (parent : p.parent? = some base) {extension raw uri : String}
    (resolved : .resolved uri = Sourcing.resolve fs extension raw p.uri) :
    ∃ q : Path, q.isAbsolute = true ∧ fs.isFile q = true ∧ q.uri = uri := by
  have literal := Sourcing.spelledCanonical (Path.parentAbsolute canonical.1 parent) raw
  rw [Sourcing.resolveFrom canonical parent] at resolved
  split at resolved
  · rename_i file
    exact ⟨_, literal.1, file, (Target.resolved.inj resolved).symm⟩
  · split at resolved
    · rename_i longer
      simp only [Bool.and_eq_true] at longer
      exact ⟨_, Path.withExtensionAbsolute literal.1 _, longer.2, (Target.resolved.inj resolved).symm⟩
    · contradiction

theorem unresolvedMissing {fs : FileSystem} {p base : Path} (canonical : p.IsCanonical)
    (parent : p.parent? = some base) {extension raw uri : String}
    (unresolved : .unresolved uri = Sourcing.resolve fs extension raw p.uri) :
    ∃ q : Path, q.IsCanonical ∧ fs.isFile q = false ∧ q.uri = uri := by
  have literal := Sourcing.spelledCanonical (Path.parentAbsolute canonical.1 parent) raw
  rw [Sourcing.resolveFrom canonical parent] at unresolved
  split at unresolved
  · contradiction
  · rename_i missing
    split at unresolved
    · contradiction
    · exact ⟨_, literal, by simpa using missing, (Target.unresolved.inj unresolved).symm⟩

theorem groundedEdge {fs : FileSystem} {a : Atlas} (grounded : Grounded fs a) {t : Target}
    (edge : t ∈ a.edges) :
    ∃ (p base : Path) (extension raw : String), p.IsCanonical ∧ p.parent? = some base ∧
      t = Sourcing.resolve fs extension raw p.uri := by
  obtain ⟨uri, declared⟩ := memEdges.mp edge
  obtain ⟨d, entry, member⟩ := memTargets.mp declared
  obtain ⟨p, base, extension, canonical, parent, _, _, each⟩ := grounded uri d entry
  obtain ⟨raw, same⟩ := each t member
  exact ⟨p, base, extension, raw, canonical, parent, same⟩

section Grounded
variable {fs : FileSystem} (current : ∀ n ∈ fs.current, IsName n) {a : Atlas} (grounded : Grounded fs a)
include current grounded

theorem unresolvedFileless {uri : String} (edge : .unresolved uri ∈ a.edges) {p : Path}
    (absolute : p.isAbsolute = true) (named : p.uri = uri) : fs.isFile p = false := by
  obtain ⟨_, _, _, _, canonical, parent, unresolved⟩ := groundedEdge grounded edge
  obtain ⟨q, normal, missing, same⟩ := unresolvedMissing canonical parent unresolved
  rw [Bool.eq_false_iff]
  intro file
  have there := fileOfUri current absolute normal (named.trans same.symm) file
  rw [missing] at there
  contradiction

theorem unresolvedAbsent {uri : String} (edge : .unresolved uri ∈ a.edges) : a.document? uri = none := by
  cases entry : a.document? uri with
  | none => rfl
  | some d =>
    obtain ⟨p, _, _, canonical, _, file, named, _⟩ := grounded uri d entry
    rw [unresolvedFileless current grounded edge canonical.1 named] at file
    contradiction

theorem groundedCoherent : a.Coherent := by
  intro uri resolved unresolved
  obtain ⟨_, _, _, _, canonical, parent, led⟩ := groundedEdge grounded resolved
  obtain ⟨q, absolute, file, named⟩ := resolvedFile canonical parent led
  rw [unresolvedFileless current grounded unresolved absolute named] at file
  contradiction

theorem documentsFound {uri other : String} {d : Document} (entry : a.document? other = some d) :
    other = uri ∨ other ∈ a.sourced uri ↔ a.Follows uri other := by
  rw [sourcedOfCoherent (groundedCoherent current grounded), reachesIff]
  constructor
  · rintro (rfl | ⟨here, before, t, edge, rfl⟩)
    · exact .start
    · cases t with
      | resolved next => exact .step before edge
      | unresolved next =>
        have absent := unresolvedAbsent current grounded (memEdges.mpr ⟨here, edge⟩)
        rw [Target.uri, absent] at entry
        contradiction
  · intro before
    cases before with
    | start => exact .inl rfl
    | step before edge => exact .inr ⟨_, before, _, edge, rfl⟩

end Grounded

theorem distinctKeys {seen : List (String × Location)} {symbols : List DeclaredSymbol}
    {key : String × Location} :
    (∃ s ∈ distinct seen symbols, (s.name, s.location) = key) ↔
      key ∉ seen ∧ ∃ s ∈ symbols, (s.name, s.location) = key := by
  induction symbols generalizing seen with
  | nil => simp [distinct]
  | cons s rest ih =>
    simp only [distinct]
    split
    · rename_i known
      rw [ih]
      constructor
      · rintro ⟨fresh, x, inside, same⟩
        exact ⟨fresh, x, List.mem_cons_of_mem _ inside, same⟩
      · rintro ⟨fresh, x, inside, rfl⟩
        rcases List.mem_cons.mp inside with rfl | later
        · exact absurd (List.contains_iff_mem.mp known) fresh
        · exact ⟨fresh, x, later, rfl⟩
    · rename_i unknown
      constructor
      · rintro ⟨x, inside, rfl⟩
        rcases List.mem_cons.mp inside with rfl | later
        · exact ⟨fun known => unknown (List.contains_iff_mem.mpr known), x, List.mem_cons_self .., rfl⟩
        · obtain ⟨fresh, y, below, same⟩ := ih.mp ⟨x, later, rfl⟩
          exact ⟨fun known => fresh (List.mem_cons_of_mem _ known), y, List.mem_cons_of_mem _ below, same⟩
      · rintro ⟨fresh, x, inside, rfl⟩
        by_cases first : (x.name, x.location) = (s.name, s.location)
        · exact ⟨s, List.mem_cons_self .., first.symm⟩
        · have below : x ∈ rest := by
            rcases List.mem_cons.mp inside with rfl | later
            · exact absurd rfl first
            · exact later
          have unseen : (x.name, x.location) ∉ (s.name, s.location) :: seen := by simp [first, fresh]
          obtain ⟨y, kept, same⟩ := ih.mpr ⟨unseen, x, below, rfl⟩
          exact ⟨y, List.mem_cons_of_mem _ kept, same⟩

def Matches (word : String) (exact : Bool) (name : String) : Prop :=
  if exact then name = word else word.toList <+: name.toList

theorem namedIff {word : String} {exact : Bool} {s : DeclaredSymbol} :
    isNamed word exact s = true ↔ Matches word exact s.name := by
  cases exact <;> simp [isNamed, Matches]

def namedIn (a : Atlas) (word : String) (exact : Bool) (uri : String) : List DeclaredSymbol :=
  match a.document? uri with
  | some d => d.symbols.filter (isNamed word exact)
  | none => []

theorem memNamedIn {a : Atlas} {word : String} {exact : Bool} {uri : String} {s : DeclaredSymbol} :
    s ∈ a.namedIn word exact uri ↔
      ∃ d, a.document? uri = some d ∧ s ∈ d.symbols ∧ Matches word exact s.name := by
  unfold namedIn
  cases a.document? uri with
  | none => simp
  | some d => simp [namedIff]

theorem matchingEq (a : Atlas) (word uri : String) (exact : Bool) :
    a.matching word uri exact =
      (distinct [] ((a.visibleFrom uri).flatMap (a.namedIn word exact))).map (·.information) := rfl

theorem matchingIff {a : Atlas} {word uri : String} {exact : Bool} {name : String} {place : Location} :
    (∃ s ∈ a.matching word uri exact, s.name = name ∧ s.location = place) ↔
      Matches word exact name ∧ ∃ v ∈ a.visibleFrom uri, ∃ d, a.document? v = some d ∧
        ∃ s ∈ d.symbols, s.name = name ∧ s.location = place := by
  have listed : (∃ s ∈ a.matching word uri exact, s.name = name ∧ s.location = place) ↔
      ∃ s ∈ distinct [] ((a.visibleFrom uri).flatMap (a.namedIn word exact)),
        (s.name, s.location) = (name, place) := by
    simp [matchingEq, DeclaredSymbol.information]
  rw [listed, distinctKeys]
  constructor
  · rintro ⟨_, s, inside, same⟩
    cases same
    obtain ⟨v, visible, member⟩ := List.mem_flatMap.mp inside
    obtain ⟨d, entry, declared, named⟩ := memNamedIn.mp member
    exact ⟨named, v, visible, d, entry, s, declared, rfl, rfl⟩
  · rintro ⟨named, v, visible, d, entry, s, declared, rfl, rfl⟩
    have member := memNamedIn.mpr ⟨d, entry, declared, named⟩
    exact ⟨by simp, s, List.mem_flatMap.mpr ⟨v, visible, member⟩, rfl⟩

theorem visibleIff {a : Atlas} (limited : a.settings.importsOnly = true) {uri other : String} :
    other ∈ a.visibleFrom uri ↔ other = uri ∨ other ∈ a.sourced uri := by
  simp only [visibleFrom, limited, if_true, List.mem_cons, List.mem_filter, decide_eq_true_eq]
  by_cases same : other = uri <;> simp [same]

theorem freshSettings (settings : Settings) (parse : String → Tree) (fs : FileSystem) (lister : Lister)
    (root : Path) (clock : Clock) :
    (ofRoot settings parse fs lister root clock).1.settings = settings :=
  History.stepSettings parse fs (empty settings) (.scan lister root clock)

/- A search finds a symbol exactly if its name fits and resolved edges lead to its document. An
unresolved edge leads to no document. -/
theorem importsVisible {fs : FileSystem} (proper : fs.Proper) {settings : Settings}
    (limited : settings.importsOnly = true) (parse : String → Tree) (depth : Option Nat) (root : Path)
    (clock : Clock) (a : Atlas)
    (fresh : a = (ofRoot settings parse fs (Discovery.list fs · · depth) root clock).1) :
    (∀ (uri word : String) (exact : Bool) (name : String) (place : Location),
      (∃ s ∈ a.matching word uri exact, s.name = name ∧ s.location = place) ↔
        Matches word exact name ∧ ∃ v d, a.document? v = some d ∧ a.Follows uri v ∧
          ∃ s ∈ d.symbols, s.name = name ∧ s.location = place) ∧
    ∀ v d w, a.document? v = some d → .unresolved w ∈ d.targets → a.document? w = none := by
  have grounded : Grounded fs a := by
    rw [fresh]
    exact freshGrounded proper settings parse depth root clock
  have kept : a.settings.importsOnly = true := by
    rw [fresh, freshSettings]
    exact limited
  refine ⟨?_, ?_⟩
  · intro uri word exact name place
    rw [matchingIff]
    refine and_congr_right fun _ => ⟨?_, ?_⟩
    · rintro ⟨v, visible, d, entry, found⟩
      exact ⟨v, d, entry, (documentsFound proper.current grounded entry).mp ((visibleIff kept).mp visible), found⟩
    · rintro ⟨v, d, entry, before, found⟩
      exact ⟨v, (visibleIff kept).mpr ((documentsFound proper.current grounded entry).mpr before), d, entry, found⟩
  · intro v d w entry member
    exact unresolvedAbsent proper.current grounded (memEdges.mpr ⟨v, memTargets.mpr ⟨d, entry, member⟩⟩)

def twoScripts : FileSystem :=
  ⟨.directory [(Text.bytes "a.sh".toList, .file (Text.bytes "source b\n".toList)),
    (Text.bytes "b.sh".toList, .file (Text.bytes "x=1\n".toList))], [], fun _ => 4096⟩

def twoTrees (text : String) : Tree :=
  if text = "x=1\n" then
    .node ⟨"program", true, false, false, false, "", 0, 4⟩
      [.node ⟨"variable_assignment", true, false, false, false, "", 0, 3⟩
        [.node ⟨"variable_name", true, false, false, false, "name", 0, 1⟩ []]]
  else History.letterLines text

def importing : Settings :=
  { Settings.standard with importsOnly := true }

def twoAtlas : Atlas :=
  (ofRoot importing twoTrees twoScripts (Discovery.list twoScripts · · none) (.ofText ".") ⟨"0", "1"⟩).1

theorem twoScriptsProper : twoScripts.Proper := by
  refine ⟨.directory (by decide) ?_, by decide⟩
  intro e member
  rcases List.mem_cons.mp member with rfl | last
  · exact .file _
  · cases List.mem_singleton.mp last
    exact .file _

theorem twoDocument {p : Path} (text : String)
    (selected : p ∈ Discovery.selected twoScripts (.ofText "/") importing.globPattern none)
    (accepted : History.accepted? importing twoScripts p = some text) :
    twoAtlas.document? p.uri = some (.build twoTrees twoScripts "sh" p.uri text) := by
  cases listed : Discovery.list twoScripts (.ofText "/") importing.globPattern none with
  | error e =>
    have fine : (Discovery.list twoScripts (.ofText "/") importing.globPattern none).isOk = true := by
      decide +kernel
    rw [listed] at fine
    contradiction
  | ok paths =>
    have root : scanRoot twoScripts (.ofText ".") = .ofText "/" := by decide +kernel
    exact (Naming.scanStores twoScriptsProper (a := empty importing) (by rw [root]; exact listed)
      ((Discovery.memListed listed).mpr selected) (loadIndexed.mpr ⟨text, accepted, rfl⟩)).2

theorem twoScriptsVisible :
    ∃ s ∈ twoAtlas.matching "x" (Path.ofText "/a.sh").uri true,
      s.name = "x" ∧ s.location = ⟨(Path.ofText "/b.sh").uri, ⟨0, 0⟩, ⟨0, 3⟩⟩ := by
  have first : twoAtlas.document? (Path.ofText "/a.sh").uri = _ :=
    twoDocument "source b\n" (by decide +kernel) (by decide +kernel)
  have second : twoAtlas.document? (Path.ofText "/b.sh").uri = _ :=
    twoDocument "x=1\n" (by decide +kernel) (by decide +kernel)
  have edge : .resolved (Path.ofText "/b.sh").uri ∈ twoAtlas.targets (Path.ofText "/a.sh").uri :=
    memTargets.mpr ⟨_, first, by decide +kernel⟩
  have whole := importsVisible twoScriptsProper rfl twoTrees none (.ofText ".") ⟨"0", "1"⟩ twoAtlas rfl
  exact (whole.1 (Path.ofText "/a.sh").uri "x" true "x" _).mpr
    ⟨rfl, (Path.ofText "/b.sh").uri, _, second, .step .start edge,
      ⟨"x", .variable, ⟨⟨0, 0⟩, ⟨0, 3⟩⟩, (Path.ofText "/b.sh").uri, none⟩, by decide +kernel, rfl, rfl⟩

end Atlas

end ShellAtlas
