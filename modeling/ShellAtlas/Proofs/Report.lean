import ShellAtlas.Proofs.Naming
/-!
The report of a scan. Every listed file is indexed, skipped or failed, is told of in one line under
its own URI, and is counted once; a listing that fails leaves the index as it was. A walk lists no
path twice and no two of its paths share a URI, so a new index holds as many documents as its report
counts.
-/
namespace ShellAtlas

namespace Catalog

theorem sizeInsert {α : Type} {c : Catalog α} {key : String} (absent : c.get? key = none) (a : α) :
    (c.insert key a).size = c.size + 1 := by
  have fresh : ∀ e ∈ c.entries, e.1 ≠ key := by
    intro e member same
    have found : c.get? key = some e.2 := getIff.mpr (same ▸ member)
    rw [absent] at found
    contradiction
  have grows : ∀ es : List (String × α), (∀ e ∈ es, e.1 ≠ key) →
      (insertInto key a es).length = es.length + 1 := by
    intro es
    induction es with
    | nil => intro _; rfl
    | cons e rest ih =>
      intro other
      have first : ¬ key = e.1 := fun same => other e (List.mem_cons_self ..) same.symm
      simp only [insertInto, if_neg first]
      split
      · rfl
      · simp [ih fun x inside => other x (List.mem_cons_of_mem _ inside)]
  exact grows c.entries fresh

end Catalog

namespace Discovery
open ShellAtlas.Path (IsName)

theorem filesOfThrough {fs : FileSystem} {s : Start} {chain : Ignore.Chain} {path : List UInt8}
    {names : List (List UInt8)} {depth : Option Nat} {entries : List (List UInt8 × FileNode)}
    (proper : ∀ e ∈ entries, e.2.Proper) {r : List (List UInt8)}
    (member : r ∈ filesOf fs s chain path names depth entries) :
    ∃ e ∈ entries, ∃ below, r = below ++ e.1 :: names := by
  induction entries with
  | nil => simp [filesOf] at member
  | cons e rest ih =>
    simp only [filesOf, List.mem_append] at member
    rcases member with here | later
    · split at here
      · simp at here
      · obtain ⟨below, same, _, _⟩ := filesInBelow e.2 (proper e (List.mem_cons_self ..)) here
        exact ⟨e, List.mem_cons_self .., below, same⟩
    · obtain ⟨x, inside, below, same⟩ := ih (fun x inside => proper x (List.mem_cons_of_mem _ inside)) later
      exact ⟨x, List.mem_cons_of_mem _ inside, below, same⟩

theorem sameEntry {α : Type} {xs ys names : List α} {a b : α}
    (same : xs ++ a :: names = ys ++ b :: names) : a = b := by
  have front : (xs ++ [a]) ++ names = (ys ++ [b]) ++ names := by simpa using same
  have ends := congrArg List.getLast? (List.append_cancel_right front)
  simpa using ends

mutual

theorem filesInDistinct {fs : FileSystem} {s : Start} {chain : Ignore.Chain} {path : List UInt8}
    {names : List (List UInt8)} {depth : Option Nat} (n : FileNode) (proper : n.Proper)
    (distinct : n.Distinct) : (filesIn fs s chain path names depth n).Nodup := by
  match n with
  | .file content =>
    rw [filesIn]
    exact List.nodup_singleton _
  | .directory entries =>
    rw [filesIn]
    cases proper with
    | directory _ below =>
      cases distinct with
      | directory apart inner =>
        split
        · exact List.nodup_nil
        · exact filesOfDistinct entries (fun e inside => ⟨below e inside, inner e inside⟩) apart

theorem filesOfDistinct {fs : FileSystem} {s : Start} {chain : Ignore.Chain} {path : List UInt8}
    {names : List (List UInt8)} {depth : Option Nat} (entries : List (List UInt8 × FileNode))
    (sound : ∀ e ∈ entries, e.2.Proper ∧ e.2.Distinct) (apart : (entries.map Prod.fst).Nodup) :
    (filesOf fs s chain path names depth entries).Nodup := by
  match entries with
  | [] =>
    rw [filesOf]
    exact List.nodup_nil
  | (name, n) :: rest =>
    obtain ⟨proper, distinct⟩ := sound (name, n) (List.mem_cons_self ..)
    have later : ∀ e ∈ rest, e.2.Proper ∧ e.2.Distinct :=
      fun e inside => sound e (List.mem_cons_of_mem _ inside)
    rw [List.map_cons, List.nodup_cons] at apart
    simp only [filesOf]
    refine List.nodup_append'.mpr ⟨?_, filesOfDistinct rest later apart.2, ?_⟩
    · split
      · exact List.nodup_nil
      · exact filesInDistinct n proper distinct
    · -- A route through this entry goes through no other one.
      intro r here there
      split at here
      · simp at here
      · obtain ⟨below, first, _, _⟩ := filesInBelow n proper here
        obtain ⟨e, inside, beyond, second⟩ := filesOfThrough (fun e inside => (later e inside).1) there
        have same : name = e.1 := sameEntry (first.symm.trans second)
        exact apart.1 (List.mem_map.mpr ⟨e, inside, same.symm⟩)

end

theorem routesDistinct {fs : FileSystem} (proper : fs.Proper) (distinct : fs.root.Distinct) {root : Path}
    {name : List UInt8} {entries : List (List UInt8 × FileNode)} {above : Trail}
    (ok : fs.trail root = .ok ((name, .directory entries) :: above)) (s : Start) (chain : Ignore.Chain)
    (path : List UInt8) (depth : Option Nat) :
    ((filesIn fs s chain path [] depth (.directory entries)).map List.reverse).Nodup := by
  have leads := (FileSystem.trailLeads proper.current ok).1
  exact (filesInDistinct _ (FileSystem.leadsProper proper.root leads _ (List.mem_cons_self ..))
    (FileSystem.leadsDistinct distinct leads _ (List.mem_cons_self ..))).map List.reverse_injective

theorem listedDistinct {fs : FileSystem} (proper : fs.Proper) (distinct : fs.root.Distinct) {root : Path}
    (canonical : root.IsCanonical) {pattern : String} {depth : Option Nat} {paths : List Path}
    (listed : list fs root pattern depth = .ok paths) : paths.Nodup := by
  unfold list at listed
  split at listed
  · rename_i name entries above ok
    split at listed
    · contradiction
    · split at listed
      · cases Except.ok.inj listed
        exact List.nodup_nil
      · cases Except.ok.inj listed
        have routes := routesDistinct proper distinct ok
        refine List.Nodup.map_on ?_
          ((List.mergeSort_perm _ _).nodup_iff.mpr ((routes _ _ _ _).filter _))
        -- Two routes below one root that spell the same path are the same route.
        intro r first q second same
        simp only [List.mem_mergeSort, List.mem_filter, List.mem_map] at first second
        obtain ⟨⟨_, left, rfl⟩, _⟩ := first
        obtain ⟨⟨_, right, rfl⟩, _⟩ := second
        obtain ⟨filled, named⟩ := routeNamed proper ok left
        obtain ⟨deep, each⟩ := routeNamed proper ok right
        rw [entryNames canonical named filled, entryNames canonical each deep] at same
        have routed := congrArg Path.route same
        rw [Path.routeOfNames (belowRoot root named), Path.routeOfNames (belowRoot root each)] at routed
        exact List.append_cancel_left routed
  · contradiction

end Discovery

namespace Atlas

theorem putsSize {a : Atlas} {ds : List Document} (apart : (ds.map Document.uri).Nodup)
    (absent : ∀ d ∈ ds, a.document? d.uri = none) :
    (ds.foldl put a).documents.size = a.documents.size + ds.length := by
  induction ds generalizing a with
  | nil => rfl
  | cons d rest ih =>
    rw [List.map_cons, List.nodup_cons] at apart
    have grown : (a.put d).documents.size = a.documents.size + 1 :=
      Catalog.sizeInsert (absent d (List.mem_cons_self ..)) d
    have still : ∀ e ∈ rest, (a.put d).document? e.uri = none := by
      intro e inside
      have other : e.uri ≠ d.uri := fun same => apart.1 (List.mem_map.mpr ⟨e, inside, same⟩)
      rw [putDocument, if_neg other]
      exact absent e (List.mem_cons_of_mem _ inside)
    rw [List.foldl_cons, ih apart.2 still, grown, List.length_cons]
    omega

theorem scannedLength (s : Settings) (parse : String → Tree) (fs : FileSystem) (paths : List Path) :
    (scanned s parse fs paths).length = (paths.map (load s parse fs)).countP (·.isIndexed) := by
  rw [scanned, List.length_filterMap_eq_countP]
  refine List.countP_congr fun o _ => ?_
  cases o <;> simp [History.document?, Outcome.isIndexed]

theorem scannedUris {s : Settings} {parse : String → Tree} {fs : FileSystem} {paths : List Path}
    (apart : (paths.map Path.uri).Nodup) : ((scanned s parse fs paths).map Document.uri).Nodup := by
  have named : (scanned s parse fs paths).map Document.uri =
      paths.filterMap fun p => (History.accepted? s fs p).map fun _ => p.uri := by
    rw [scanned, List.filterMap_map, List.map_filterMap]
    refine List.filterMap_congr fun p _ => ?_
    simp only [Function.comp_apply, History.loadAccepted, Option.map_map]
    rfl
  rw [named]
  refine List.pairwise_filterMap.mpr ((List.pairwise_map.mp apart).imp ?_)
  intro p q other u here v there
  obtain ⟨_, _, rfl⟩ := Option.map_eq_some_iff.mp here
  obtain ⟨_, _, rfl⟩ := Option.map_eq_some_iff.mp there
  exact other

theorem freshSize {fs : FileSystem} (proper : fs.Proper) (distinct : fs.root.Distinct)
    (settings : Settings) (parse : String → Tree) (depth : Option Nat) (root : Path) (clock : Clock) :
    (ofRoot settings parse fs (Discovery.list fs · · depth) root clock).1.documents.size =
      (ofRoot settings parse fs (Discovery.list fs · · depth) root clock).2.analyzed := by
  rw [ofRoot]
  cases listed : Discovery.list fs (scanRoot fs root) settings.globPattern depth with
  | error e => simp [scan, empty, listed, putAll, Catalog.size, Catalog.empty]
  | ok paths =>
    have canonical : ∀ p ∈ paths, p.IsCanonical := fun p => Naming.listedCanonical proper listed
    have apart : (paths.map Path.uri).Nodup :=
      List.Nodup.map_on (fun p left q right => FileUri.uriInjective (canonical p left) (canonical q right))
        (Discovery.listedDistinct proper distinct (Naming.scanRootCanonical listed) listed)
    have counted : ((empty settings).scan parse fs (Discovery.list fs · · depth) root clock).2.analyzed =
        (paths.map (load settings parse fs)).countP (·.isIndexed) := by
      simp only [scan, empty, listed]
    rw [counted, ← scannedLength,
      scanPuts (a := empty settings) (Discovery.list fs · · depth) listed,
      putsSize (scannedUris apart) fun d _ => rfl]
    exact Nat.zero_add _

inductive Fate where
  | indexed
  | skipped
  | failed
  deriving DecidableEq, Repr

def Fate.of : Outcome → Fate
  | .indexed _ => .indexed
  | .skipped _ _ => .skipped
  | .failed _ _ => .failed

inductive Skips (s : Settings) (fs : FileSystem) (p : Path) : String → Prop where
  | large {n : FileNode} (there : fs.node p = .ok n) (larger : s.maxFileSize < fs.size n) :
      Skips s fs p
        ("of " ++ toString (fs.size n) ++ " bytes (limit " ++ toString s.maxFileSize ++ " bytes)")
  | foreign {n : FileNode} {content line : List Char} (there : fs.node p = .ok n)
      (fits : fs.size n ≤ s.maxFileSize) (read : fs.readText p = .ok content)
      (other : Dialect.detect p content = .error (.foreign line)) :
      Skips s fs p ("with shebang \"" ++ String.ofList (Text.ellipsis 80 line) ++ "\"")
  | notShell {n : FileNode} {content : List Char} (there : fs.node p = .ok n)
      (fits : fs.size n ≤ s.maxFileSize) (read : fs.readText p = .ok content)
      (other : Dialect.detect p content = .error .notShell) :
      Skips s fs p "without a shell shebang or extension"

inductive Fails (s : Settings) (fs : FileSystem) (p : Path) : FileError → Prop where
  | missing {e : FileError} (gone : fs.node p = .error e) : Fails s fs p e
  | unread {n : FileNode} {e : FileError} (there : fs.node p = .ok n) (fits : fs.size n ≤ s.maxFileSize)
      (broken : fs.readText p = .error e) : Fails s fs p e

inductive Told (s : Settings) (fs : FileSystem) (p : Path) : Fate → Notice → Prop where
  | indexed {n : FileNode} {content : List Char} {dialect : Dialect} (there : fs.node p = .ok n)
      (fits : fs.size n ≤ s.maxFileSize) (read : fs.readText p = .ok content)
      (shell : Dialect.detect p content = .ok dialect) :
      Told s fs p .indexed (.log ("Analyzing " ++ p.uri))
  | skipped {reason : String} (why : Skips s fs p reason) :
      Told s fs p .skipped (.log ("Skipping file " ++ p.uri ++ " " ++ reason))
  | failed {e : FileError} (why : Fails s fs p e) :
      Told s fs p .failed (.warn ("Failed analyzing " ++ p.uri ++ ". Error: " ++ e.message))

section Told
variable {s : Settings} (parse : String → Tree) {fs : FileSystem} {p : Path}

theorem loadTold : Told s fs p (Fate.of (load s parse fs p)) (load s parse fs p).notice := by
  unfold load
  cases there : fs.node p with
  | error e => exact .failed (.missing there)
  | ok n =>
    by_cases larger : s.maxFileSize < fs.size n
    · simp only [larger, if_true]
      exact .skipped (.large there larger)
    · have fits := Nat.le_of_not_lt larger
      simp only [larger, if_false]
      cases read : fs.readText p with
      | error e => exact .failed (.unread there fits read)
      | ok content =>
        simp only
        split
        · exact .indexed there fits read (by assumption)
        · exact .skipped (.foreign there fits read (by assumption))
        · exact .skipped (.notShell there fits read (by assumption))

theorem toldLoad {f : Fate} {line : Notice} (told : Told s fs p f line) :
    f = Fate.of (load s parse fs p) ∧ line = (load s parse fs p).notice := by
  unfold load
  cases told with
  | indexed there fits read shell =>
    simp only [there, Nat.not_lt_of_le fits, if_false, read, shell]
    exact ⟨rfl, rfl⟩
  | skipped why =>
    cases why with
    | large there larger =>
      simp only [there, larger, if_true]
      exact ⟨rfl, rfl⟩
    | foreign there fits read other =>
      simp only [there, Nat.not_lt_of_le fits, if_false, read, other]
      exact ⟨rfl, rfl⟩
    | notShell there fits read other =>
      simp only [there, Nat.not_lt_of_le fits, if_false, read, other]
      exact ⟨rfl, rfl⟩
  | failed why =>
    cases why with
    | missing gone =>
      simp only [gone]
      exact ⟨rfl, rfl⟩
    | unread there fits broken =>
      simp only [there, Nat.not_lt_of_le fits, if_false, broken]
      exact ⟨rfl, rfl⟩

end Told

/- What a report says of a listing that gave some paths, with the warning if it gave none: one line
for each path between the lines around them, and every path in one of three counts. -/
structure Accounts (s : Settings) (fs : FileSystem) (root : Path) (clock : Clock) (paths : List Path)
    (warning : Option String) (r : Report) : Prop where
  candidates : r.candidates = paths.length
  total : r.candidates = r.analyzed + r.skipped + r.failed
  warned : r.warning = warning
  told : ∃ lines : List (Fate × Notice), List.Forall₂ (fun p l => Told s fs p l.1 l.2) paths lines ∧
    r.analyzed = (lines.map Prod.fst).count .indexed ∧
    r.skipped = (lines.map Prod.fst).count .skipped ∧
    r.failed = (lines.map Prod.fst).count .failed ∧
    r.notices =
      [.log ("Analyzing files matching glob \"" ++ s.globPattern ++ "\" inside " ++
        (scanRoot fs root).display)] ++
      (warning.map Notice.warn).toList ++
      [.log ("Glob resolved with " ++ toString paths.length ++ " files after " ++ clock.listed ++ " seconds")] ++
      lines.map Prod.snd ++
      [.log ("Analyzer finished after " ++ clock.finished ++ " seconds")]

theorem fateCounts (outcomes : List Outcome) :
    outcomes.length = outcomes.countP (·.isIndexed) + outcomes.countP (·.isSkipped) +
      outcomes.countP (·.isFailed) := by
  induction outcomes with
  | nil => rfl
  | cons o rest ih =>
    cases o <;> simp only [List.countP_cons, Outcome.isIndexed, Outcome.isSkipped, Outcome.isFailed,
      List.length_cons, ih] <;> simp <;> omega

theorem countFate (outcomes : List Outcome) :
    outcomes.countP (·.isIndexed) = (outcomes.map Fate.of).count .indexed ∧
    outcomes.countP (·.isSkipped) = (outcomes.map Fate.of).count .skipped ∧
    outcomes.countP (·.isFailed) = (outcomes.map Fate.of).count .failed := by
  simp only [List.count, List.countP_map]
  refine ⟨List.countP_congr ?_, List.countP_congr ?_, List.countP_congr ?_⟩ <;>
    · rintro (_ | _ | _) _ <;> exact Iff.rfl

theorem loadLines (s : Settings) (parse : String → Tree) (fs : FileSystem) (paths : List Path) :
    ∃ lines : List (Fate × Notice), List.Forall₂ (fun p l => Told s fs p l.1 l.2) paths lines ∧
      (paths.map (load s parse fs)).map Fate.of = lines.map Prod.fst ∧
      (paths.map (load s parse fs)).map Outcome.notice = lines.map Prod.snd := by
  refine ⟨(paths.map (load s parse fs)).map fun o => (Fate.of o, o.notice), ?_, ?_, ?_⟩
  · rw [List.map_map, List.forall₂_map_right_iff, List.forall₂_same]
    exact fun p _ => loadTold parse
  · simp
  · simp

def found : Except Failure (List Path) → List Path
  | .ok paths => paths
  | .error _ => []

def degraded (glob : String) : Except Failure (List Path) → Option String
  | .ok _ => none
  | .error e =>
    some ("Failed to analyze shell files using the glob \"" ++ glob ++
      "\". The experience will be degraded. Error: " ++ e.message)

theorem scanAccounts (a : Atlas) (parse : String → Tree) (fs : FileSystem) (lister : Lister) (root : Path)
    (clock : Clock) :
    Accounts a.settings fs root clock (found (lister (scanRoot fs root) a.settings.globPattern))
      (degraded a.settings.globPattern (lister (scanRoot fs root) a.settings.globPattern))
      (a.scan parse fs lister root clock).2 where
  candidates := rfl
  total := by
    rw [scan, ← fateCounts, List.length_map]
  warned := rfl
  told := by
    obtain ⟨lines, told, fates, notices⟩ := loadLines a.settings parse fs
      (found (lister (scanRoot fs root) a.settings.globPattern))
    obtain ⟨indexed, skipped, failed⟩ := countFate
      ((found (lister (scanRoot fs root) a.settings.globPattern)).map (load a.settings parse fs))
    rw [fates] at indexed skipped failed
    refine ⟨lines, told, indexed, skipped, failed, ?_⟩
    rw [← notices]
    rfl

theorem scanKept {a : Atlas} {fs : FileSystem} {lister : Lister} {root : Path} {e : Failure}
    (failed : lister (scanRoot fs root) a.settings.globPattern = .error e) (parse : String → Tree)
    (clock : Clock) : (a.scan parse fs lister root clock).1 = a := by
  simp only [scan, failed]
  rfl

/- Every scan reports all that it was given: a listing of paths with one line and one count for each,
or a listing that failed with a warning, and then nothing is changed. Each path has one fate and one
line. What a walk puts into a new index are as many documents as the report counts. -/
theorem scanReported (a : Atlas) (parse : String → Tree) (fs : FileSystem) (lister : Lister)
    (root : Path) (clock : Clock) :
    (∀ paths, lister (scanRoot fs root) a.settings.globPattern = .ok paths →
      Accounts a.settings fs root clock paths none (a.scan parse fs lister root clock).2) ∧
    (∀ e, lister (scanRoot fs root) a.settings.globPattern = .error e →
      Accounts a.settings fs root clock []
        (some ("Failed to analyze shell files using the glob \"" ++ a.settings.globPattern ++
          "\". The experience will be degraded. Error: " ++ e.message))
        (a.scan parse fs lister root clock).2 ∧
      (a.scan parse fs lister root clock).1 = a) ∧
    (∀ p, ∃ f line, Told a.settings fs p f line ∧
      ∀ g other, Told a.settings fs p g other → g = f ∧ other = line) ∧
    ∀ (settings : Settings) (depth : Option Nat), fs.Proper → fs.root.Distinct →
      (ofRoot settings parse fs (Discovery.list fs · · depth) root clock).1.documents.size =
        (ofRoot settings parse fs (Discovery.list fs · · depth) root clock).2.analyzed := by
  have whole := scanAccounts a parse fs lister root clock
  refine ⟨?_, ?_, ?_, ?_⟩
  · intro paths listed
    rw [listed] at whole
    exact whole
  · intro e failed
    rw [failed] at whole
    exact ⟨whole, scanKept failed parse clock⟩
  · intro p
    exact ⟨_, _, loadTold parse, fun _ _ => toldLoad parse⟩
  · intro settings depth proper distinct
    exact freshSize proper distinct settings parse depth root clock

def mixedFiles : FileSystem :=
  ⟨.directory [(Text.bytes "a.sh".toList, .file (Text.bytes "source b\n".toList)),
    (Text.bytes "b.sh".toList, .file (Text.bytes "#!/bin/perl\n".toList)),
    (Text.bytes "c.sh".toList, .file [0xFF])], [], fun _ => 4096⟩

def mixedPaths : List Path :=
  ["/a.sh", "/b.sh", "/c.sh", "/d.sh"].map .ofText

def mixedScan (listed : Except Failure (List Path)) : Atlas × Report :=
  (empty .standard).scan History.letterLines mixedFiles (fun _ _ => listed) (.ofText ".") ⟨"0", "1"⟩

def loneScan : Atlas × Report :=
  ofRoot .standard History.letterLines Naming.lone (Discovery.list Naming.lone · · none)
    (.ofText "../w/.") ⟨"0", "1"⟩

theorem loneDistinct : Naming.lone.root.Distinct := by
  refine .directory (by decide) ?_
  intro e member
  cases List.mem_singleton.mp member
  refine .directory (by decide) ?_
  intro e member
  cases List.mem_singleton.mp member
  exact .file []

theorem mixedReported :
    (Accounts .standard mixedFiles (.ofText ".") ⟨"0", "1"⟩ mixedPaths none (mixedScan (.ok mixedPaths)).2 ∧
      (mixedScan (.ok mixedPaths)).2.analyzed = 1 ∧ (mixedScan (.ok mixedPaths)).2.failed = 2) ∧
    (mixedScan (.error .json)).1 = empty .standard ∧
    loneScan.1.documents.size = loneScan.2.analyzed ∧ loneScan.2.analyzed = 1 := by
  obtain ⟨listing, _, _, _⟩ := scanReported (empty .standard) History.letterLines mixedFiles
    (fun _ _ => .ok mixedPaths) (.ofText ".") ⟨"0", "1"⟩
  obtain ⟨_, failing, _, _⟩ := scanReported (empty .standard) History.letterLines mixedFiles
    (fun _ _ => .error .json) (.ofText ".") ⟨"0", "1"⟩
  obtain ⟨_, _, _, fresh⟩ := scanReported (empty .standard) History.letterLines Naming.lone
    (fun _ _ => .ok []) (.ofText "../w/.") ⟨"0", "1"⟩
  exact ⟨⟨listing mixedPaths rfl, by decide +kernel, by decide +kernel⟩, (failing .json rfl).2,
    fresh .standard none Naming.loneProper loneDistinct, by decide +kernel⟩

end Atlas

end ShellAtlas
