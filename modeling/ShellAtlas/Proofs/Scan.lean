import ShellAtlas.Proofs.Naming
/-!
A scan is a row of analyses. What is loaded file by file and put in at the end is what analyzing
each accepted file in turn leaves. The order of the listing and repetitions in it do not count: two
listed paths of one URI have the same components, and where both lead to a file, it is the same
file.
-/
namespace ShellAtlas

namespace FileSystem
open ShellAtlas.Path (Component dot slash)

theorem followStays {before after : Trail} {segment : List UInt8}
    (silent : Component.ofSegment? segment = none) (ok : follow before segment = .ok after) :
    after = before := by
  have stays : segment = [] ∨ segment = [dot] := by
    unfold Component.ofSegment? at silent
    split at silent
    · exact .inl (by assumption)
    · split at silent
      · exact .inr (by assumption)
      · split at silent <;> contradiction
  obtain _ | ⟨⟨name, here⟩, above⟩ := before
  · simp [follow] at ok
  cases here with
  | file content => simp [follow] at ok
  | directory entries =>
    simp only [follow] at ok
    rw [if_pos (by simpa using stays)] at ok
    exact (Except.ok.inj ok).symm

/- Segments that say nothing can be left out of a way that leads somewhere. The converse fails: a
closing slash leads nowhere from a file. -/
theorem saidSegments {segments : List (List UInt8)} {before after : Trail}
    (plain : ∀ s ∈ segments, slash ∉ s) (ok : segments.foldlM follow before = .ok after) :
    ((segments.filterMap Component.ofSegment?).map Component.bytes).foldlM follow before =
      .ok after := by
  induction segments generalizing before with
  | nil => exact ok
  | cons s rest ih =>
    have plainRest : ∀ x ∈ rest, slash ∉ x := fun x inside => plain x (List.mem_cons_of_mem _ inside)
    rw [List.foldlM_cons] at ok
    cases first : follow before s with
    | error e => simp [first, bind, Except.bind] at ok
    | ok middle =>
      simp only [first, bind, Except.bind] at ok
      cases read : Component.ofSegment? s with
      | none =>
        cases followStays read first
        rw [List.filterMap_cons_none read]
        exact ih plainRest ok
      | some c =>
        have spelled := (Path.ofSegmentSolid (plain s (List.mem_cons_self ..)) read).2
        rw [List.filterMap_cons_some read, List.map_cons, List.foldlM_cons, spelled, first]
        exact ih plainRest ok

theorem innerTrail {fs : FileSystem} {p : Path} (absolute : p.isAbsolute = true) {t : Trail}
    (ok : fs.trail p = .ok t) : (p.inner.map Component.bytes).foldlM follow fs.rootTrail = .ok t :=
  saidSegments (fun _ => Path.segmentPlain) ((trailAbsolute absolute).mp ok).2

section Same
variable {fs : FileSystem} {p q : Path} (left : p.isAbsolute = true) (right : q.isAbsolute = true)
  (same : p.components = q.components)
include left right same

theorem sameNode {n m : FileNode} (here : fs.node p = .ok n) (there : fs.node q = .ok m) : n = m := by
  obtain ⟨name, above, first⟩ := nodeTrail.mp here
  obtain ⟨other, beyond, second⟩ := nodeTrail.mp there
  have inner : p.inner = q.inner := by
    rw [Path.componentsAbsolute left, Path.componentsAbsolute right] at same
    exact List.tail_eq_of_cons_eq same
  have meet := innerTrail left first
  rw [inner, innerTrail right second] at meet
  cases Except.ok.inj meet
  rfl

theorem sameText {xs ys : List Char} (here : fs.readText p = .ok xs) (there : fs.readText q = .ok ys) :
    xs = ys := by
  unfold readText at here there
  cases first : fs.node p with
  | error e => simp [first, bind, Except.bind] at here
  | ok n =>
    cases second : fs.node q with
    | error e => simp [second, bind, Except.bind] at there
    | ok m =>
      cases sameNode left right same first second
      rw [first] at here
      rw [second, here] at there
      exact Except.ok.inj there

end Same

end FileSystem

namespace Atlas
open History (accepted?)

theorem acceptedIff {s : Settings} {fs : FileSystem} {p : Path} {text : String} :
    accepted? s fs p = some text ↔
      ∃ n content dialect, fs.node p = .ok n ∧ fs.size n ≤ s.maxFileSize ∧ fs.readText p = .ok content ∧
        Dialect.detect p content = .ok dialect ∧ text = String.ofList content := by
  unfold accepted?
  constructor
  · intro accepted
    split at accepted
    · rename_i n content node read
      split at accepted
      · rename_i fits
        cases dialect : Dialect.detect p content with
        | error reason => simp [dialect, Except.isOk, Except.toBool] at fits
        | ok shell =>
          exact ⟨n, content, shell, node, fits.1, read, dialect, (Option.some.inj accepted).symm⟩
      · contradiction
    · contradiction
  · rintro ⟨n, content, shell, node, fits, read, dialect, rfl⟩
    simp [node, read, fits, dialect, Except.isOk, Except.toBool]

theorem acceptedSame {s : Settings} {fs : FileSystem} {p q : Path} (left : p.isAbsolute = true)
    (right : q.isAbsolute = true) (same : p.uri = q.uri) {x y : String}
    (here : accepted? s fs p = some x) (there : accepted? s fs q = some y) : x = y := by
  obtain ⟨_, xs, _, _, _, first, _, rfl⟩ := acceptedIff.mp here
  obtain ⟨_, ys, _, _, _, second, _, rfl⟩ := acceptedIff.mp there
  rw [FileSystem.sameText left right ((FileUri.uriEqIff left right).mp same) first second]

def acceptedTexts (s : Settings) (fs : FileSystem) (paths : List Path) : List (Path × String) :=
  paths.filterMap fun p => (accepted? s fs p).map (p, ·)

def analyzeEach (parse : String → Tree) (fs : FileSystem) (a : Atlas) (paths : List Path) : Atlas :=
  (acceptedTexts a.settings fs paths).foldl (fun b x => b.analyze parse fs x.1.uri x.2) a

theorem analyzeEachChanges (parse : String → Tree) (fs : FileSystem) (a : Atlas) (paths : List Path) :
    analyzeEach parse fs a paths =
      (paths.filterMap fun p => (accepted? a.settings fs p).map (History.Change.write p.uri)).foldl
        (History.apply parse fs) a := by
  have writes : (paths.filterMap fun p => (accepted? a.settings fs p).map (History.Change.write p.uri)) =
      (acceptedTexts a.settings fs paths).map fun x => .write x.1.uri x.2 := by
    simp [acceptedTexts, List.map_filterMap, Function.comp_def]
  rw [writes, List.foldl_map]
  rfl

theorem putsUntouched {a : Atlas} {ds : List Document} {uri : String} (other : ∀ d ∈ ds, d.uri ≠ uri) :
    (ds.foldl put a).document? uri = a.document? uri := by
  induction ds generalizing a with
  | nil => rfl
  | cons d rest ih =>
    rw [List.foldl_cons, ih fun e inside => other e (List.mem_cons_of_mem _ inside), putDocument,
      if_neg (other d (List.mem_cons_self ..)).symm]

theorem putsSettings (a : Atlas) (ds : List Document) : (ds.foldl put a).settings = a.settings := by
  induction ds generalizing a with
  | nil => rfl
  | cons d rest ih => exact ih (a.put d)

theorem putsSame {a : Atlas} {ds es : List Document} (members : ∀ d, d ∈ es ↔ d ∈ ds)
    (apart : ∀ d ∈ ds, ∀ e ∈ ds, e.uri = d.uri → e = d) : es.foldl put a = ds.foldl put a := by
  apply History.atlasExt
  · rw [putsSettings, putsSettings]
  · intro uri
    by_cases some : ∃ d ∈ ds, d.uri = uri
    · obtain ⟨d, member, rfl⟩ := some
      rw [putOnly member (apart d member),
        putOnly ((members d).mpr member) fun e inside => apart d member e ((members e).mp inside)]
    · have none : ∀ d ∈ ds, d.uri ≠ uri := fun d member same => some ⟨d, member, same⟩
      rw [putsUntouched none, putsUntouched fun d inside => none d ((members d).mp inside)]

section Listing
variable {a : Atlas} {parse : String → Tree} {fs : FileSystem} {lister : Lister} {root : Path}
  {clock : Clock} {paths : List Path}
  (listed : lister (scanRoot fs root) a.settings.globPattern = .ok paths)
  (absolute : ∀ p ∈ paths, p.isAbsolute = true)

include listed in
theorem scanEach : (a.scan parse fs lister root clock).1 = analyzeEach parse fs a paths := by
  have steps := History.stepChanges parse fs a (.scan lister root clock)
  simp only [History.step, History.Step.changes, listed] at steps
  rw [steps, analyzeEachChanges]

include absolute in
theorem scannedApart {s : Settings} : ∀ d ∈ scanned s parse fs paths,
    ∀ e ∈ scanned s parse fs paths, e.uri = d.uri → e = d := by
  intro d first e second same
  obtain ⟨p, left, loaded⟩ := memScanned.mp first
  obtain ⟨x, here, rfl⟩ := loadIndexed.mp loaded
  obtain ⟨q, right, found⟩ := memScanned.mp second
  obtain ⟨y, there, rfl⟩ := loadIndexed.mp found
  have named : q.uri = p.uri := same
  rw [named, acceptedSame (absolute q right) (absolute p left) named there here]

include listed absolute in
theorem scanStored {p : Path} (member : p ∈ paths) {text : String}
    (accepted : accepted? a.settings fs p = some text) :
    (a.scan parse fs lister root clock).1.document? p.uri =
      some (.build parse fs a.settings.scriptExtension p.uri text) := by
  have loaded : load a.settings parse fs p =
      .indexed (.build parse fs a.settings.scriptExtension p.uri text) :=
    loadIndexed.mpr ⟨text, accepted, rfl⟩
  have found := memScanned.mpr ⟨p, member, loaded⟩
  rw [scanPuts lister listed]
  exact putOnly found (scannedApart absolute _ found)

include listed in
theorem scanUntouched {uri : String}
    (other : ∀ p ∈ paths, (accepted? a.settings fs p).isSome → p.uri ≠ uri) :
    (a.scan parse fs lister root clock).1.document? uri = a.document? uri := by
  rw [scanPuts lister listed]
  apply putsUntouched
  intro d member same
  obtain ⟨p, inside, loaded⟩ := memScanned.mp member
  obtain ⟨text, accepted, rfl⟩ := loadIndexed.mp loaded
  exact other p inside (by simp [accepted]) same

include listed absolute in
theorem scanAgain {again : Lister} {start : Path} {time : Clock} {others : List Path}
    (relisted : again (scanRoot fs start) a.settings.globPattern = .ok others)
    (members : ∀ p, p ∈ others ↔ p ∈ paths) :
    (a.scan parse fs again start time).1 = (a.scan parse fs lister root clock).1 ∧
    ((a.scan parse fs lister root clock).1.scan parse fs again start time).1 =
      (a.scan parse fs lister root clock).1 := by
  have same : ∀ d, d ∈ scanned a.settings parse fs others ↔ d ∈ scanned a.settings parse fs paths := by
    simp only [memScanned, members, implies_true]
  have puts : (a.scan parse fs lister root clock).1 = (scanned a.settings parse fs paths).foldl put a :=
    scanPuts lister listed
  have kept : (a.scan parse fs lister root clock).1.settings = a.settings := by
    rw [puts, putsSettings]
  constructor
  · rw [puts, scanPuts again relisted]
    exact putsSame same (scannedApart absolute)
  · -- What the second scan puts in the first has put in already.
    rw [scanPuts again (by rw [kept]; exact relisted), kept, puts, ← List.foldl_append]
    apply putsSame _ (scannedApart absolute)
    intro d
    rw [List.mem_append, same, or_self]

end Listing

/- A scan is the analysis of each accepted file in turn. It leaves all other documents alone, counts
no order and no repetition in the listing, and once done changes nothing more. -/
theorem scanSequential (a : Atlas) (parse : String → Tree) (fs : FileSystem) (lister : Lister)
    (root : Path) (clock : Clock) {paths : List Path}
    (listed : lister (scanRoot fs root) a.settings.globPattern = .ok paths)
    (absolute : ∀ p ∈ paths, p.isAbsolute = true) :
    (a.scan parse fs lister root clock).1 = analyzeEach parse fs a paths ∧
    (∀ p text, accepted? a.settings fs p = some text ↔
      ∃ n content dialect, fs.node p = .ok n ∧ fs.size n ≤ a.settings.maxFileSize ∧
        fs.readText p = .ok content ∧ Dialect.detect p content = .ok dialect ∧
        text = String.ofList content) ∧
    (∀ p ∈ paths, ∀ text, accepted? a.settings fs p = some text →
      (a.scan parse fs lister root clock).1.document? p.uri =
        some (.build parse fs a.settings.scriptExtension p.uri text)) ∧
    (∀ uri, (∀ p ∈ paths, (accepted? a.settings fs p).isSome → p.uri ≠ uri) →
      (a.scan parse fs lister root clock).1.document? uri = a.document? uri) ∧
    ∀ (again : Lister) (start : Path) (time : Clock) (others : List Path),
      again (scanRoot fs start) a.settings.globPattern = .ok others → (∀ p, p ∈ others ↔ p ∈ paths) →
      (a.scan parse fs again start time).1 = (a.scan parse fs lister root clock).1 ∧
      ((a.scan parse fs lister root clock).1.scan parse fs again start time).1 =
        (a.scan parse fs lister root clock).1 :=
  ⟨scanEach listed, fun _ _ => acceptedIff, fun _ member _ => scanStored listed absolute member,
    fun _ => scanUntouched listed, fun _ _ _ _ => scanAgain listed absolute⟩

def spellings : List Path :=
  ["/s.sh", "//./s.sh", "/s.sh", "/s.sh/", "/t.sh"].map .ofText

def shuffled : List Path :=
  ["/t.sh", "/s.sh/", "//./s.sh", "/s.sh"].map .ofText

def stale : Atlas :=
  ((empty .standard).analyze History.letterLines History.oneScript "file:///s.sh" "").analyze
    History.letterLines History.oneScript "file:///a" "source c\n"

def rescanned (paths : List Path) (clock : Clock) : Atlas :=
  (stale.scan History.letterLines History.oneScript (fun _ _ => .ok paths) (.ofText ".") clock).1

theorem spellingsScanned :
    rescanned spellings ⟨"0", "1"⟩ = analyzeEach History.letterLines History.oneScript stale spellings ∧
    (rescanned spellings ⟨"0", "1"⟩).document? "file:///s.sh" =
      some (.build History.letterLines History.oneScript "sh" "file:///s.sh" "source b\n") ∧
    (rescanned spellings ⟨"0", "1"⟩).document? "file:///a" = stale.document? "file:///a" ∧
    rescanned shuffled ⟨"2", "3"⟩ = rescanned spellings ⟨"0", "1"⟩ := by
  obtain ⟨each, _, stored, untouched, again⟩ :=
    scanSequential stale History.letterLines History.oneScript (fun _ _ => .ok spellings) (.ofText ".")
      ⟨"0", "1"⟩ rfl (by decide +kernel)
  have named : (Path.ofText "/s.sh").uri = "file:///s.sh" := by decide +kernel
  refine ⟨each, ?_, ?_, ?_⟩
  · have found := stored (.ofText "/s.sh") (by decide +kernel) "source b\n" (by decide +kernel)
    rw [named] at found
    exact found
  · apply untouched
    have script : ∀ p ∈ spellings, (accepted? stale.settings History.oneScript p).isSome →
        p.uri = "file:///s.sh" := by decide +kernel
    intro p member accepted same
    rw [script p member accepted] at same
    exact absurd same (by decide)
  · have members : (∀ p ∈ shuffled, p ∈ spellings) ∧ ∀ p ∈ spellings, p ∈ shuffled := by decide +kernel
    exact (again (fun _ _ => .ok shuffled) (.ofText ".") ⟨"2", "3"⟩ shuffled rfl fun p => ⟨members.1 p, members.2 p⟩).1

end Atlas

end ShellAtlas
