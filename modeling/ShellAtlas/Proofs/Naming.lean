import ShellAtlas.Command.Run
import ShellAtlas.Proofs.FileSystem
import ShellAtlas.Proofs.FileUri
import ShellAtlas.Proofs.History
import ShellAtlas.Proofs.NormalForm
import ShellAtlas.Proofs.Utf8
/-!
The URI of a file. A file has one absolute path in normal form, and the URI of that path is what
it is called by: the scan that finds it below a root, the command that is given some spelling of
it, and the statement that sources it from another file all come to the same text.
-/
namespace ShellAtlas

namespace Discovery
open ShellAtlas.Path (IsName slash)

mutual

theorem filesInBelow {fs : FileSystem} {s : Start} {chain : Ignore.Chain} {path : List UInt8}
    {names : List (List UInt8)} {depth : Option Nat} (n : FileNode) (proper : n.Proper)
    {r : List (List UInt8)} (member : r ∈ filesIn fs s chain path names depth n) :
    ∃ below, r = below ++ names ∧ (∀ m ∈ below, IsName m) ∧ (n.isDirectory = true → below ≠ []) := by
  match n with
  | .file content =>
    rw [filesIn, List.mem_singleton] at member
    exact ⟨[], member, by simp, by simp [FileNode.isDirectory]⟩
  | .directory entries =>
    rw [filesIn] at member
    cases proper with
    | directory each below =>
      split at member
      · simp at member
      · obtain ⟨further, same, named, filled⟩ :=
          filesOfBelow entries (fun e inside => ⟨each e inside, below e inside⟩) member
        exact ⟨further, same, named, fun _ => filled⟩

theorem filesOfBelow {fs : FileSystem} {s : Start} {chain : Ignore.Chain} {path : List UInt8}
    {names : List (List UInt8)} {depth : Option Nat} (entries : List (List UInt8 × FileNode))
    (proper : ∀ e ∈ entries, IsName e.1 ∧ e.2.Proper)
    {r : List (List UInt8)} (member : r ∈ filesOf fs s chain path names depth entries) :
    ∃ below, r = below ++ names ∧ (∀ m ∈ below, IsName m) ∧ below ≠ [] := by
  match entries with
  | [] => simp [filesOf] at member
  | (name, n) :: rest =>
    obtain ⟨named, sound⟩ := proper (name, n) (List.mem_cons_self ..)
    rw [filesOf, List.mem_append] at member
    rcases member with here | later
    · split at here
      · simp at here
      · obtain ⟨below, same, each, _⟩ := filesInBelow n sound here
        refine ⟨below ++ [name], by simp [same], ?_, by simp⟩
        intro m inside
        rcases List.mem_append.mp inside with deep | first
        · exact each m deep
        · exact List.mem_singleton.mp first ▸ named
    · exact filesOfBelow rest (fun e inside => proper e (List.mem_cons_of_mem _ inside)) later

end

def selected (fs : FileSystem) (root : Path) (pattern : String) (depth : Option Nat) : List Path :=
  match fs.trail root, Glob.parse false pattern.toList with
  | .ok ((name, .directory entries) :: above), .ok glob =>
    if isInputName root then []
    else
      let trail : Trail := (name, .directory entries) :: above
      let routes := filesIn fs ⟨root.bytes, directory trail⟩ ⟨[], rulesAbove fs trail⟩ root.bytes []
        depth (.directory entries)
      ((routes.map List.reverse).filter fun r => glob.accepts (relativePath r)).map fun r =>
        ⟨entryPath root.bytes (relativePath r)⟩
  | _, _ => []

theorem memListed {fs : FileSystem} {root : Path} {pattern : String} {depth : Option Nat}
    {paths : List Path} (listed : list fs root pattern depth = .ok paths) {p : Path} :
    p ∈ paths ↔ p ∈ selected fs root pattern depth := by
  unfold list at listed
  unfold selected
  split at listed
  · rename_i name entries above ok
    rw [ok]
    split at listed
    · contradiction
    · rename_i glob parsed
      rw [parsed]
      simp only
      split at listed
      · rename_i input
        cases Except.ok.inj listed
        rw [if_pos input]
      · rename_i named
        cases Except.ok.inj listed
        rw [if_neg named]
        simp only [List.mem_map, List.mem_mergeSort]
  · contradiction

theorem belowRoot (root : Path) {route : List (List UInt8)} (named : ∀ n ∈ route, IsName n) :
    ∀ n ∈ root.route ++ route, IsName n := by
  intro n within
  rcases List.mem_append.mp within with above | beneath
  · exact Path.routeProper root n above
  · exact named n beneath

theorem entryNames {root : Path} (canonical : root.IsCanonical) {route : List (List UInt8)}
    (named : ∀ n ∈ route, IsName n) (filled : route ≠ []) :
    (⟨entryPath root.bytes (relativePath route)⟩ : Path) = Path.ofNames (root.route ++ route) := by
  rw [← Path.joinNames (Path.routeProper root) named filled, ← Path.canonicalRoute canonical]
  rfl

theorem routeNamed {fs : FileSystem} (proper : fs.Proper) {root : Path} {name : List UInt8}
    {entries : List (List UInt8 × FileNode)} {above : Trail}
    (ok : fs.trail root = .ok ((name, .directory entries) :: above)) {s : Start} {chain : Ignore.Chain}
    {path : List UInt8} {depth : Option Nat} {back : List (List UInt8)}
    (member : back ∈ filesIn fs s chain path [] depth (.directory entries)) :
    back.reverse ≠ [] ∧ ∀ n ∈ back.reverse, IsName n := by
  have sound : (FileNode.directory entries).Proper :=
    FileSystem.leadsProper proper.root (FileSystem.trailLeads proper.current ok).1 _
      (List.mem_cons_self ..)
  obtain ⟨below, same, named, filled⟩ := filesInBelow _ sound member
  rw [List.append_nil] at same
  subst same
  exact ⟨by simpa using filled rfl, fun n within => named n (List.mem_reverse.mp within)⟩

theorem listedTrail {fs : FileSystem} {root : Path} {pattern : String} {depth : Option Nat} {paths : List Path}
    (listed : list fs root pattern depth = .ok paths) : ∃ t, fs.trail root = .ok t := by
  unfold list at listed
  split at listed
  · rename_i ok
    exact ⟨_, ok⟩
  · contradiction

theorem listedPath {fs : FileSystem} (proper : fs.Proper) {root : Path} (canonical : root.IsCanonical)
    {pattern : String} {depth : Option Nat} {paths : List Path}
    (listed : list fs root pattern depth = .ok paths) {p : Path} (member : p ∈ paths) :
    ∃ ns, ns ≠ [] ∧ (∀ n ∈ ns, IsName n) ∧ p = Path.ofNames ns := by
  rw [memListed listed, selected] at member
  split at member
  · rename_i name entries above glob ok parsed
    split at member
    · simp at member
    · simp only [List.mem_map, List.mem_filter] at member
      obtain ⟨r, ⟨⟨back, inside, rfl⟩, _⟩, rfl⟩ := member
      obtain ⟨deep, each⟩ := routeNamed proper ok inside
      exact ⟨root.route ++ back.reverse, by simp [deep], belowRoot root each,
        entryNames canonical each deep⟩
  · simp at member

end Discovery

namespace Atlas
open History (accepted?)

theorem putDocument (a : Atlas) (d : Document) (uri : String) :
    (a.put d).document? uri = if uri = d.uri then some d else a.document? uri := by
  rw [put, document?, Catalog.getInsert]
  rfl

theorem analyzeDocument (a : Atlas) (parse : String → Tree) (fs : FileSystem) (key content uri : String) :
    (a.analyze parse fs key content).document? uri =
      if uri = key then some (.build parse fs a.settings.scriptExtension key content)
      else a.document? uri :=
  putDocument a _ uri

theorem putEach {a : Atlas} {ds : List Document} {uri : String} {d : Document}
    (entry : (ds.foldl put a).document? uri = some d) :
    d ∈ ds ∧ d.uri = uri ∨ a.document? uri = some d := by
  induction ds generalizing a with
  | nil => exact .inr entry
  | cons e rest ih =>
    rcases ih entry with ⟨member, same⟩ | before
    · exact .inl ⟨List.mem_cons_of_mem _ member, same⟩
    · rw [putDocument] at before
      split at before
      · rename_i here
        cases Option.some.inj before
        exact .inl ⟨List.mem_cons_self .., here.symm⟩
      · exact .inr before

theorem putOnly {a : Atlas} {ds : List Document} {d : Document} (member : d ∈ ds)
    (only : ∀ e ∈ ds, e.uri = d.uri → e = d) : (ds.foldl put a).document? d.uri = some d := by
  induction ds using List.reverseRecOn with
  | nil => simp at member
  | append_singleton ds e ih =>
    rw [List.foldl_append, List.foldl_cons, List.foldl_nil, putDocument]
    split
    · rename_i same
      rw [only e (by simp) same.symm]
    · rename_i other
      have before : d ∈ ds := by
        rcases List.mem_append.mp member with before | last
        · exact before
        · exact absurd (congrArg Document.uri (List.mem_singleton.mp last)) other
      exact ih before fun x inside => only x (List.mem_append_left _ inside)

theorem loadIndexed {s : Settings} {parse : String → Tree} {fs : FileSystem} {p : Path} {d : Document} :
    load s parse fs p = .indexed d ↔
      ∃ text, accepted? s fs p = some text ∧
        d = .build parse fs s.scriptExtension p.uri text := by
  rw [← History.documentIff, History.loadAccepted, Option.map_eq_some_iff]
  simp only [eq_comm]

def scanned (s : Settings) (parse : String → Tree) (fs : FileSystem) (paths : List Path) : List Document :=
  (paths.map (load s parse fs)).filterMap History.document?

theorem memScanned {s : Settings} {parse : String → Tree} {fs : FileSystem} {paths : List Path}
    {d : Document} : d ∈ scanned s parse fs paths ↔ ∃ p ∈ paths, load s parse fs p = .indexed d := by
  simp only [scanned, List.mem_filterMap, List.mem_map, exists_exists_and_eq_and, History.documentIff]

theorem scanPuts {a : Atlas} {parse : String → Tree} {fs : FileSystem} (lister : Lister) {root : Path}
    {clock : Clock} {paths : List Path}
    (listed : lister (scanRoot fs root) a.settings.globPattern = .ok paths) :
    (a.scan parse fs lister root clock).1 = (scanned a.settings parse fs paths).foldl put a := by
  simp only [scan, listed, History.putAllDocuments, scanned]

theorem freshOrigin {settings : Settings} {parse : String → Tree} {fs : FileSystem} {lister : Lister}
    {root : Path} {clock : Clock} {uri : String} {d : Document}
    (entry : (ofRoot settings parse fs lister root clock).1.document? uri = some d) :
    ∃ paths, lister (scanRoot fs root) settings.globPattern = .ok paths ∧ ∃ p ∈ paths, ∃ text,
      accepted? settings fs p = some text ∧ p.uri = uri ∧
      d = .build parse fs settings.scriptExtension p.uri text := by
  rw [ofRoot] at entry
  cases listed : lister (scanRoot fs root) settings.globPattern with
  | error e => simp [scan, empty, listed, putAll, document?] at entry
  | ok paths =>
    rw [scanPuts (a := empty settings) lister listed] at entry
    rcases putEach entry with ⟨member, rfl⟩ | before
    · obtain ⟨p, inside, loaded⟩ := memScanned.mp member
      obtain ⟨text, accepted, rfl⟩ := loadIndexed.mp loaded
      exact ⟨paths, rfl, p, inside, text, accepted, rfl, rfl⟩
    · simp [empty, document?] at before

end Atlas

namespace Text
open ShellAtlas.Path (slash)

theorem slashChar {cs : List Char} (byte : slash ∈ bytes cs) : '/' ∈ cs :=
  lowChar (by decide) byte

end Text

namespace Sourcing
open ShellAtlas.Path (IsName Component dot slash)

def spelled (base : Path) (raw : String) : Path :=
  (base.join (.ofText raw)).normalize

theorem spelledCanonical {base : Path} (absolute : base.isAbsolute = true) (raw : String) :
    (spelled base raw).IsCanonical :=
  Path.normalizeCanonical (Path.joinAbsolute absolute)

theorem resolveFrom {d base : Path} (canonical : d.IsCanonical) (parent : d.parent? = some base)
    (fs : FileSystem) (extension raw : String) :
    resolve fs extension raw d.uri =
      if fs.isFile (spelled base raw) then .resolved (spelled base raw).uri
      else if (spelled base raw).extension?.isNone && extension ≠ "" &&
          fs.isFile ((spelled base raw).withExtension (Text.bytes extension.toList)) then
        .resolved ((spelled base raw).withExtension (Text.bytes extension.toList)).uri
      else .unresolved (spelled base raw).uri := by
  obtain ⟨q, read, _, components⟩ := FileUri.toPathOfUri canonical
  have seen : declaring d.uri = (q, true) := by simp [declaring, read]
  have path : literal raw d.uri = spelled base raw := by
    rw [literal, seen, Path.parentEq components, parent]
    rfl
  simp [resolve, path, render, seen]

theorem extendedName {n extension : List UInt8} (proper : IsName n) (plain : slash ∉ extension) :
    IsName (n ++ dot :: extension) := by
  obtain ⟨filled, notHere, _, noSlash⟩ := proper
  obtain ⟨b, rest, rfl⟩ := List.exists_cons_of_ne_nil filled
  refine ⟨by simp, by simp, ?_, ?_⟩
  · intro up
    cases rest with
    | nil => exact notHere (by simp_all)
    | cons c more => simp at up
  · intro inside
    rcases List.mem_append.mp inside with front | behind
    · exact noSlash front
    · rcases List.mem_cons.mp behind with same | later
      · exact absurd same (by decide)
      · exact plain later

def Extended (extension : String) (p t : Path) : Prop :=
  ∃ cs n, p.components = cs ++ [.name n] ∧
    t.components = cs ++ [.name (n ++ dot :: Text.bytes extension.toList)]

/- The path of a file that a spelled path means: the path itself, or where that is no file and
has no extension, the path with the script extension. -/
def Means (fs : FileSystem) (extension : String) (p t : Path) : Prop :=
  p = t ∨ fs.isFile p = false ∧ p.extension? = none ∧ extension ≠ "" ∧ Extended extension p t

theorem extensionBytes {extension : String} (filled : extension ≠ "") :
    Text.bytes extension.toList ≠ [] := by
  intro empty
  rw [Text.bytes, List.flatMap_eq_nil_iff] at empty
  have nothing : extension.toList = [] := by
    rw [List.eq_nil_iff_forall_not_mem]
    intro c member
    have size := c.utf8Size_pos
    rw [← String.length_utf8EncodeChar, empty c member] at size
    exact absurd size (by simp)
  exact filled (String.toList_eq_nil_iff.mp nothing)

theorem extendedEq {extension : String} {p t : Path} (canonical : t.IsCanonical)
    (bare : p.extension? = none) (filled : extension ≠ "") (extended : Extended extension p t) :
    p.withExtension (Text.bytes extension.toList) = t := by
  obtain ⟨cs, n, before, after⟩ := extended
  rw [Path.withExtensionBare before bare (extensionBytes filled), ← after,
    Path.canonicalComponents canonical]

theorem withExtensionExtended {extension : String} {p : Path} (canonical : p.IsCanonical)
    (bare : p.extension? = none) (filled : extension ≠ "") (plain : '/' ∉ extension.toList)
    (named : p.withExtension (Text.bytes extension.toList) ≠ p) :
    (p.withExtension (Text.bytes extension.toList)).IsCanonical ∧
      Extended extension p (p.withExtension (Text.bytes extension.toList)) := by
  have proper := Path.routeProper p
  have components : p.components = .root :: p.route.map .name := by
    rw [← Path.componentsOfNames proper, ← Path.canonicalRoute canonical]
  obtain atRoot | ⟨front, last, whole⟩ := List.eq_nil_or_concat p.route
  · have nameless : p.fileName? = none := by simp [Path.fileName?, components, atRoot]
    exact absurd (by simp [Path.withExtension, nameless]) named
  · rw [whole, List.concat_eq_append] at components proper
    have ended : p.components = (.root :: front.map .name) ++ [.name last] := by simp [components]
    have longer : p.withExtension (Text.bytes extension.toList) =
        Path.ofNames (front ++ [last ++ dot :: Text.bytes extension.toList]) := by
      rw [Path.withExtensionBare ended bare (extensionBytes filled)]
      simp [Path.ofNames]
    have each : ∀ n ∈ front ++ [last ++ dot :: Text.bytes extension.toList], IsName n := by
      intro n member
      rcases List.mem_append.mp member with inside | final
      · exact proper n (List.mem_append_left _ inside)
      · rw [List.mem_singleton.mp final]
        exact extendedName (proper last (by simp)) fun byte => plain (Text.slashChar byte)
    refine ⟨longer ▸ Path.canonicalOfNames each, _, last, ended, ?_⟩
    rw [longer, Path.componentsOfNames each]
    simp

theorem resolveMeant {d base : Path} (canonical : d.IsCanonical) (parent : d.parent? = some base)
    {fs : FileSystem} {t : Path} (named : t.IsCanonical) (file : fs.isFile t = true)
    {extension raw : String} (meant : Means fs extension (spelled base raw) t) :
    resolve fs extension raw d.uri = .resolved t.uri := by
  rw [resolveFrom canonical parent]
  rcases meant with same | ⟨missing, bare, filled, extended⟩
  · rw [same, if_pos file]
  · rw [extendedEq named bare filled extended]
    simp [missing, bare, filled, file]

theorem resolveUnmeant {d base : Path} (canonical : d.IsCanonical) (parent : d.parent? = some base)
    {fs : FileSystem} {extension raw : String} (plain : '/' ∉ extension.toList)
    (unmeant : ∀ t : Path, t.IsCanonical → fs.isFile t = true →
      ¬ Means fs extension (spelled base raw) t) :
    resolve fs extension raw d.uri = .unresolved (spelled base raw).uri := by
  have literal := spelledCanonical (Path.parentAbsolute canonical.1 parent) raw
  have missing : fs.isFile (spelled base raw) = false := by
    rw [Bool.eq_false_iff]
    intro file
    exact unmeant _ literal file (.inl rfl)
  rw [resolveFrom canonical parent, if_neg (by simp [missing]), if_neg]
  intro longer
  simp only [Bool.and_eq_true, Option.isNone_iff_eq_none, decide_eq_true_eq] at longer
  obtain ⟨⟨bare, filled⟩, file⟩ := longer
  have other : (spelled base raw).withExtension (Text.bytes extension.toList) ≠ spelled base raw := by
    intro same
    rw [same, missing] at file
    contradiction
  obtain ⟨named, extended⟩ := withExtensionExtended literal bare filled plain other
  exact unmeant _ named file (.inr ⟨missing, bare, filled, extended⟩)

end Sourcing

namespace Naming
open ShellAtlas.Path (IsName)

theorem samePlace {fs : FileSystem} (current : ∀ n ∈ fs.current, IsName n) {p t : Path}
    (canonical : t.IsCanonical) (file : fs.isFile t = true) (same : fs.place? p = fs.place? t) :
    (fs.currentPath.join p).normalize = t := by
  obtain ⟨place, there⟩ := FileSystem.placeOfFile file
  rw [FileSystem.placeNormal current (same.trans there),
    ← FileSystem.placeCanonical current canonical there]

theorem ensuredUri {a after : Atlas} {parse : String → Tree} {fs : FileSystem} {spelling : Path}
    {uri : String} (ok : Command.ensureAnalyzed a parse fs spelling = .ok (after, uri)) :
    uri = (fs.currentPath.join spelling).normalize.uri := by
  unfold Command.ensureAnalyzed at ok
  split at ok
  · contradiction
  · split at ok
    · contradiction
    · rename_i here found
      cases FileSystem.currentFound found
      simp only at ok
      split at ok
      · cases Except.ok.inj ok
        rfl
      · split at ok
        · contradiction
        · cases Except.ok.inj ok
          rfl

theorem scanRootCanonical {fs : FileSystem} {root : Path} {pattern : String} {depth : Option Nat}
    {paths : List Path} (listed : Discovery.list fs (Atlas.scanRoot fs root) pattern depth = .ok paths) :
    (Atlas.scanRoot fs root).IsCanonical := by
  unfold Atlas.scanRoot at listed ⊢
  cases current : fs.currentDirectory? with
  | some here =>
    rw [FileSystem.currentFound current]
    exact Path.normalizeCanonical (Path.joinAbsolute fs.currentAbsolute)
  | none =>
    -- A relative root would lead nowhere and not be listed.
    simp only [current] at listed
    obtain ⟨_, ok⟩ := Discovery.listedTrail listed
    have absolute := FileSystem.absentAbsolute current ok
    rw [Path.normalizeIsAbsolute] at absolute
    exact Path.normalizeCanonical absolute

theorem listedCanonical {fs : FileSystem} (proper : fs.Proper) {root : Path} {pattern : String}
    {depth : Option Nat} {paths : List Path}
    (listed : Discovery.list fs (Atlas.scanRoot fs root) pattern depth = .ok paths) {p : Path}
    (member : p ∈ paths) : p.IsCanonical := by
  obtain ⟨ns, _, names, rfl⟩ :=
    Discovery.listedPath proper (scanRootCanonical listed) listed member
  exact Path.canonicalOfNames names

theorem scanStores {fs : FileSystem} (proper : fs.Proper) {a : Atlas} {parse : String → Tree}
    {root : Path} {depth : Option Nat} {clock : Clock} {paths : List Path}
    (listed : Discovery.list fs (Atlas.scanRoot fs root) a.settings.globPattern depth = .ok paths)
    {p : Path} (member : p ∈ paths) {d : Document}
    (loaded : Atlas.load a.settings parse fs p = .indexed d) :
    d.uri = p.uri ∧
    (a.scan parse fs (Discovery.list fs · · depth) root clock).1.document? p.uri = some d := by
  obtain ⟨text, accepted, rfl⟩ := Atlas.loadIndexed.mp loaded
  refine ⟨rfl, ?_⟩
  rw [Atlas.scanPuts (Discovery.list fs · · depth) listed]
  refine Atlas.putOnly (Atlas.memScanned.mpr ⟨p, member, loaded⟩) ?_
  intro e inside same
  obtain ⟨q, other, found⟩ := Atlas.memScanned.mp inside
  obtain ⟨content, taken, rfl⟩ := Atlas.loadIndexed.mp found
  have equal : q = p :=
    FileUri.uriInjective (listedCanonical proper listed other) (listedCanonical proper listed member) same
  subst equal
  rw [Option.some.inj (taken.symm.trans accepted)]

/- Three ways lead to a file: a scan that lists it, a command that is given a spelling of it, and a
statement that sources it. Each calls it by the URI of its one path in normal form. -/
theorem fileNamedOnce {fs : FileSystem} (proper : fs.Proper) {t : Path} (canonical : t.IsCanonical)
    (file : fs.isFile t = true) (parse : String → Tree) :
    (∀ (a : Atlas) (root : Path) (depth : Option Nat) (clock : Clock) (paths : List Path),
      Discovery.list fs (Atlas.scanRoot fs root) a.settings.globPattern depth = .ok paths →
      ∀ p ∈ paths,
        (fs.place? p = fs.place? t ↔ p.uri = t.uri) ∧
        ∀ d, fs.place? p = fs.place? t → Atlas.load a.settings parse fs p = .indexed d →
          d.uri = t.uri ∧
          (a.scan parse fs (Discovery.list fs · · depth) root clock).1.document? t.uri = some d) ∧
    (∀ (a after : Atlas) (spelling : Path) (uri : String),
      Command.ensureAnalyzed a parse fs spelling = .ok (after, uri) →
      fs.place? spelling = fs.place? t → uri = t.uri) ∧
    ∀ (d base : Path) (extension raw : String), d.IsCanonical → d.parent? = some base →
      (Sourcing.Means fs extension (Sourcing.spelled base raw) t →
        Sourcing.resolve fs extension raw d.uri = .resolved t.uri) ∧
      ('/' ∉ extension.toList →
        (∀ other : Path, other.IsCanonical → fs.isFile other = true →
          ¬ Sourcing.Means fs extension (Sourcing.spelled base raw) other) →
        Sourcing.resolve fs extension raw d.uri = .unresolved (Sourcing.spelled base raw).uri) := by
  refine ⟨?_, ?_, ?_⟩
  · intro a root depth clock paths listed p member
    have named := listedCanonical proper listed member
    have same : fs.place? p = fs.place? t → p = t := fun place => by
      have normal := samePlace proper.current canonical file place
      rwa [Path.joinOver named.1, named.2] at normal
    refine ⟨⟨fun place => by rw [same place], fun uri => by rw [FileUri.uriInjective named canonical uri]⟩,
      ?_⟩
    intro d place loaded
    cases same place
    exact scanStores proper listed member loaded
  · intro a after spelling uri ok place
    rw [ensuredUri ok, samePlace proper.current canonical file place]
  · intro d base extension raw declaring parent
    exact ⟨Sourcing.resolveMeant declaring parent canonical file,
      Sourcing.resolveUnmeant declaring parent⟩

def lone : FileSystem :=
  ⟨.directory [(Text.bytes ['w'], .directory [(Text.bytes "b.sh".toList, .file [])])], [Text.bytes ['w']],
    fun _ => 4096⟩

theorem loneProper : lone.Proper := by
  refine ⟨.directory (by decide) ?_, by decide⟩
  intro e member
  cases List.mem_singleton.mp member
  refine .directory (by decide) ?_
  intro e member
  cases List.mem_singleton.mp member
  exact .file []

theorem loneNamedOnce :
    ((Atlas.empty .standard).scan History.letterLines lone (Discovery.list lone · · none)
        (.ofText "../w/.") ⟨"0", "1"⟩).1.document? (Path.ofText "/w/b.sh").uri =
      some (.build History.letterLines lone "sh" (Path.ofText "/w/b.sh").uri "") ∧
    (∃ after, Command.ensureAnalyzed (.empty .standard) History.letterLines lone (.ofText "../w/./b.sh") =
      .ok (after, (Path.ofText "/w/b.sh").uri)) ∧
    Sourcing.resolve lone "sh" "b" (Path.ofText "/w/a.sh").uri = .resolved (Path.ofText "/w/b.sh").uri ∧
    Sourcing.resolve lone "sh" "c" (Path.ofText "/w/a.sh").uri = .unresolved (Path.ofText "/w/c").uri := by
  have whole := fileNamedOnce loneProper (t := .ofText "/w/b.sh") (by decide +kernel) (by decide +kernel)
    History.letterLines
  obtain ⟨scans, commands, sources⟩ := whole
  refine ⟨?_, ?_, ?_, ?_⟩
  · have listed : Discovery.list lone (Atlas.scanRoot lone (.ofText "../w/."))
        Settings.standard.globPattern none = .ok [.ofText "/w/b.sh"] := by decide +kernel
    have loaded : Atlas.load .standard History.letterLines lone (.ofText "/w/b.sh") =
        .indexed (.build History.letterLines lone "sh" (Path.ofText "/w/b.sh").uri "") :=
      Atlas.loadIndexed.mpr ⟨"", by decide +kernel, rfl⟩
    exact ((scans (.empty .standard) _ none ⟨"0", "1"⟩ _ listed _ (List.mem_singleton.mpr rfl)).2 _ rfl loaded).2
  · cases run : Command.ensureAnalyzed (.empty .standard) History.letterLines lone (.ofText "../w/./b.sh") with
    | error e =>
      have fine : (Command.ensureAnalyzed (.empty .standard) History.letterLines lone
        (.ofText "../w/./b.sh")).isOk = true := by decide +kernel
      rw [run] at fine
      contradiction
    | ok result =>
      obtain ⟨after, uri⟩ := result
      exact ⟨after, by rw [commands _ _ _ _ run (by decide +kernel)]⟩
  · refine (sources (.ofText "/w/a.sh") (.ofText "/w") "sh" "b" (by decide +kernel) (by decide +kernel)).1 ?_
    exact .inr ⟨by decide +kernel, by decide +kernel, by decide,
      [.root, .name (Text.bytes ['w'])], Text.bytes ['b'], by decide +kernel, by decide +kernel⟩
  · have literal : Sourcing.spelled (.ofText "/w") "c" = .ofText "/w/c" := by decide +kernel
    rw [← literal]
    refine (sources (.ofText "/w/a.sh") (.ofText "/w") "sh" "c" (by decide +kernel)
      (by decide +kernel)).2 (by decide) ?_
    intro other named file meant
    rw [literal] at meant
    rcases meant with rfl | ⟨_, bare, filled, extended⟩
    · exact absurd file (by decide +kernel)
    · rw [← Sourcing.extendedEq named bare filled extended] at file
      exact absurd file (by decide +kernel)

end Naming

end ShellAtlas
