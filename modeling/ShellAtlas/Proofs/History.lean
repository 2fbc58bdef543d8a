import Mathlib.Data.List.Dedup
import Mathlib.Data.List.Induction
import ShellAtlas.Index.Scan
import ShellAtlas.Proofs.Catalog
import ShellAtlas.Query.Point
import ShellAtlas.Query.Search
/-!
Histories of an index. A step analyzes a text, removes a document or scans a root, and each step
meets the file system as it is at that moment. On a file system that stays as it is, a step is a
list of changes to single documents, and the last change to a document decides what is kept of it:
no trace of earlier texts is left.
-/
namespace ShellAtlas.History

inductive Step where
  | analyze (uri content : String)
  | remove (uri : String)
  | scan (lister : Lister) (root : Path) (clock : Clock)

def step (parse : String → Tree) (fs : FileSystem) (a : Atlas) : Step → Atlas
  | .analyze uri content => a.analyze parse fs uri content
  | .remove uri => a.remove uri
  | .scan lister root clock => (a.scan parse fs lister root clock).1

def run (parse : String → Tree) (a : Atlas) (events : List (FileSystem × Step)) : Atlas :=
  events.foldl (fun a e => step parse e.1 a e.2) a

inductive Change where
  | write (uri content : String)
  | drop (uri : String)
  deriving DecidableEq, Repr

def Change.uri : Change → String
  | .write uri _ => uri
  | .drop uri => uri

def Change.content? : Change → Option String
  | .write _ content => some content
  | .drop _ => none

def apply (parse : String → Tree) (fs : FileSystem) (a : Atlas) : Change → Atlas
  | .write uri content => a.analyze parse fs uri content
  | .drop uri => a.remove uri

def accepted? (s : Settings) (fs : FileSystem) (p : Path) : Option String :=
  match fs.node p, fs.readText p with
  | .ok n, .ok content =>
    if fs.size n ≤ s.maxFileSize ∧ (Dialect.detect p content).isOk then some (String.ofList content)
    else none
  | _, _ => none

def Step.changes (s : Settings) (fs : FileSystem) : Step → List Change
  | .analyze uri content => [.write uri content]
  | .remove uri => [.drop uri]
  | .scan lister root _ =>
    match lister (Atlas.scanRoot fs root) s.globPattern with
    | .ok paths => paths.filterMap fun p => (accepted? s fs p).map (.write p.uri)
    | .error _ => []

def changes (s : Settings) (fs : FileSystem) (steps : List Step) : List Change :=
  steps.flatMap (·.changes s fs)

def lastText? (cs : List Change) (uri : String) : Option String :=
  (cs.reverse.find? (·.uri = uri)).bind Change.content?

def finalTexts (cs : List Change) : List (String × String) :=
  (cs.map Change.uri).dedup.filterMap fun uri => (lastText? cs uri).map (uri, ·)

def rebuild (parse : String → Tree) (fs : FileSystem) (settings : Settings)
    (texts : List (String × String)) : Atlas :=
  texts.foldl (fun a t => a.analyze parse fs t.1 t.2) (.empty settings)

structure SameAnswers (a b : Atlas) : Prop where
  definitions : ∀ uri word p, a.definitions uri word p = b.definitions uri word p
  references : ∀ word, a.references word = b.references word
  occurrences : ∀ uri word, a.occurrences uri word = b.occurrences uri word
  symbolsOf : ∀ uri, a.symbolsOf uri = b.symbolsOf uri
  matching : ∀ word uri exact, a.matching word uri exact = b.matching word uri exact
  sourced : ∀ uri, a.sourced uri = b.sourced uri
  wordAt : ∀ uri p, a.wordAt? uri p = b.wordAt? uri p
  commentsAbove : ∀ uri line, a.commentsAbove? uri line = b.commentsAbove? uri line

theorem sameAnswersOfEq {a b : Atlas} (same : a = b) : SameAnswers a b := by
  subst same
  exact ⟨fun _ _ _ => rfl, fun _ => rfl, fun _ _ => rfl, fun _ => rfl, fun _ _ _ => rfl,
    fun _ => rfl, fun _ _ => rfl, fun _ _ => rfl⟩

section Load
variable (s : Settings) (parse : String → Tree) (fs : FileSystem)

def document? : Outcome → Option Document
  | .indexed d => some d
  | _ => none

theorem documentIff {o : Outcome} {d : Document} : document? o = some d ↔ o = .indexed d := by
  cases o <;> simp [document?]

theorem putAllDocuments (a : Atlas) (outcomes : List Outcome) :
    a.putAll outcomes = (outcomes.filterMap document?).foldl Atlas.put a := by
  induction outcomes generalizing a with
  | nil => rfl
  | cons o rest ih =>
    cases o with
    | indexed d => exact ih (a.put d)
    | skipped uri message => exact ih a
    | failed uri message => exact ih a

theorem loadAccepted (p : Path) :
    document? (Atlas.load s parse fs p) =
      (accepted? s fs p).map (Document.build parse fs s.scriptExtension p.uri) := by
  unfold Atlas.load accepted?
  cases node : fs.node p with
  | error e => simp [document?]
  | ok n =>
    cases text : fs.readText p with
    | error e =>
      simp only
      split <;> rfl
    | ok content =>
      by_cases large : s.maxFileSize < fs.size n
      · simp [large, Nat.not_le_of_lt large, document?]
      · cases dialect : Dialect.detect p content with
        | ok shell => simp [large, Nat.le_of_not_lt large, dialect, document?, Except.isOk, Except.toBool]
        | error reason => cases reason <;> simp [large, dialect, document?, Except.isOk, Except.toBool]

end Load

section Changes
variable (parse : String → Tree) (fs : FileSystem)

theorem applySettings (a : Atlas) (c : Change) : (apply parse fs a c).settings = a.settings := by
  cases c <;> rfl

theorem appliedSettings (a : Atlas) (cs : List Change) :
    (cs.foldl (apply parse fs) a).settings = a.settings := by
  induction cs generalizing a with
  | nil => rfl
  | cons c rest ih => exact (ih _).trans (applySettings parse fs a c)

/- The extension is read from the settings, which putting in documents leaves alone. -/
theorem putAccepted {a : Atlas} {s : Settings} (kept : a.settings = s) (paths : List Path) :
    ((paths.map (Atlas.load s parse fs)).filterMap document?).foldl Atlas.put a =
      (paths.filterMap fun p => (accepted? s fs p).map (.write p.uri)).foldl (apply parse fs) a := by
  induction paths generalizing a with
  | nil => rfl
  | cons p rest ih =>
    simp only [List.map_cons, List.filterMap_cons, loadAccepted]
    cases accepted? s fs p with
    | none => exact ih kept
    | some text =>
      subst kept
      exact ih (a := a.put _) rfl

theorem stepChanges (a : Atlas) (s : Step) :
    step parse fs a s = (s.changes a.settings fs).foldl (apply parse fs) a := by
  cases s with
  | analyze uri content => rfl
  | remove uri => rfl
  | scan lister root clock =>
    simp only [step, Atlas.scan, Step.changes, putAllDocuments]
    cases lister (Atlas.scanRoot fs root) a.settings.globPattern with
    | error e => rfl
    | ok paths => exact putAccepted parse fs rfl paths

theorem stepSettings (a : Atlas) (s : Step) : (step parse fs a s).settings = a.settings := by
  rw [stepChanges, appliedSettings]

theorem runChanges (a : Atlas) (steps : List Step) :
    run parse a (steps.map (fs, ·)) = (changes a.settings fs steps).foldl (apply parse fs) a := by
  induction steps generalizing a with
  | nil => rfl
  | cons s rest ih =>
    have next := ih (step parse fs a s)
    rw [stepSettings] at next
    simp only [run, changes, List.map_cons, List.foldl_cons, List.flatMap_cons, List.foldl_append]
      at next ⊢
    rw [next, stepChanges]

theorem applyDocument (a : Atlas) (c : Change) (uri : String) :
    (apply parse fs a c).document? uri =
      if c.uri = uri then c.content?.map (Document.build parse fs a.settings.scriptExtension uri)
      else a.document? uri := by
  cases c with
  | write key content =>
    simp only [apply, Atlas.analyze, Atlas.put, Atlas.document?, Catalog.getInsert, Change.uri,
      Change.content?]
    by_cases same : key = uri
    · simp [same, Document.build]
    · simp [same, Ne.symm same, Document.build]
  | drop key =>
    simp only [apply, Atlas.remove, Atlas.document?, Catalog.getErase, Change.uri, Change.content?]
    by_cases same : key = uri
    · simp [same]
    · simp [same, Ne.symm same]

theorem appliedDocument (settings : Settings) (cs : List Change) (uri : String) :
    (cs.foldl (apply parse fs) (.empty settings)).document? uri =
      (lastText? cs uri).map (Document.build parse fs settings.scriptExtension uri) := by
  -- From the last change back: it decides, or what the changes before it left stays.
  induction cs using List.reverseRecOn with
  | nil => rfl
  | append_singleton cs c ih =>
    rw [List.foldl_append, List.foldl_cons, List.foldl_nil, applyDocument, appliedSettings]
    by_cases same : c.uri = uri
    · simp [same, lastText?, Atlas.empty]
    · simpa [same, lastText?] using ih

theorem runDocument (settings : Settings) (steps : List Step) (uri : String) :
    (run parse (.empty settings) (steps.map (fs, ·))).document? uri =
      (lastText? (changes settings fs steps) uri).map
        (Document.build parse fs settings.scriptExtension uri) := by
  rw [runChanges, appliedDocument]
  rfl

theorem runContents (settings : Settings) (steps : List Step) (uri : String) :
    ((run parse (.empty settings) (steps.map (fs, ·))).document? uri).map (·.content) =
      lastText? (changes settings fs steps) uri := by
  rw [runDocument, Option.map_map]
  cases lastText? (changes settings fs steps) uri <;> rfl

theorem atlasExt {a b : Atlas} (settings : a.settings = b.settings)
    (documents : ∀ uri, a.document? uri = b.document? uri) : a = b := by
  have same : a.documents = b.documents := Catalog.extOfGet documents
  cases a
  cases b
  cases settings
  cases same
  rfl

theorem appliedEq (settings : Settings) {cs ds : List Change}
    (same : ∀ uri, lastText? cs uri = lastText? ds uri) :
    cs.foldl (apply parse fs) (.empty settings) = ds.foldl (apply parse fs) (.empty settings) := by
  apply atlasExt
  · rw [appliedSettings, appliedSettings]
  · intro uri
    rw [appliedDocument, appliedDocument, same]

end Changes

theorem lastTextUri {cs : List Change} {uri text : String} (last : lastText? cs uri = some text) :
    uri ∈ cs.map Change.uri := by
  simp only [lastText?, Option.bind_eq_some_iff] at last
  obtain ⟨c, found, _⟩ := last
  have same : c.uri = uri := by simpa using List.find?_some found
  have member := List.mem_reverse.mp (List.mem_of_find?_eq_some found)
  exact List.mem_map.mpr ⟨c, member, same⟩

theorem memFinalTexts {cs : List Change} {uri text : String} :
    (uri, text) ∈ finalTexts cs ↔ lastText? cs uri = some text := by
  simp only [finalTexts, List.mem_filterMap, List.mem_dedup, Option.map_eq_some_iff]
  constructor
  · rintro ⟨key, _, value, last, same⟩
    cases same
    exact last
  · intro last
    exact ⟨uri, lastTextUri last, text, last, rfl⟩

theorem finalTextsDistinct (cs : List Change) : ((finalTexts cs).map Prod.fst).Nodup := by
  rw [finalTexts, List.map_filterMap]
  refine (List.nodup_dedup (cs.map Change.uri)).filterMap ?_
  intro left right key here there
  simp only [Option.map_map, Option.mem_def, Option.map_eq_some_iff] at here there
  obtain ⟨_, _, rfl⟩ := here
  obtain ⟨_, _, same⟩ := there
  exact same.symm

theorem lastTextOfWrites {texts : List (String × String)} (distinct : (texts.map Prod.fst).Nodup)
    {uri text : String} :
    lastText? (texts.map fun t => .write t.1 t.2) uri = some text ↔ (uri, text) ∈ texts := by
  simp only [lastText?, Option.bind_eq_some_iff]
  constructor
  · rintro ⟨c, found, content⟩
    have same : c.uri = uri := by simpa using List.find?_some found
    obtain ⟨t, member, rfl⟩ := List.mem_map.mp (List.mem_reverse.mp (List.mem_of_find?_eq_some found))
    cases same
    cases content
    exact member
  · intro member
    cases found : (texts.map fun t => Change.write t.1 t.2).reverse.find? (·.uri = uri) with
    | none =>
      have absent := List.find?_eq_none.mp found (.write uri text)
        (List.mem_reverse.mpr (List.mem_map.mpr ⟨(uri, text), member, rfl⟩))
      simp [Change.uri] at absent
    | some c =>
      have same : c.uri = uri := by simpa using List.find?_some found
      obtain ⟨t, inside, rfl⟩ :=
        List.mem_map.mp (List.mem_reverse.mp (List.mem_of_find?_eq_some found))
      have equal : t = (uri, text) := List.inj_on_of_nodup_map distinct inside member same
      exact ⟨_, rfl, by rw [equal]; rfl⟩

theorem rebuildWrites (parse : String → Tree) (fs : FileSystem) (settings : Settings)
    (texts : List (String × String)) :
    rebuild parse fs settings texts =
      (texts.map fun t => Change.write t.1 t.2).foldl (apply parse fs) (.empty settings) := by
  rw [List.foldl_map]
  rfl

theorem lastTextOfOrder {cs : List Change} {order : List (String × String)}
    (same : order.Perm (finalTexts cs)) (uri : String) :
    lastText? (order.map fun t => .write t.1 t.2) uri = lastText? cs uri := by
  have distinct : (order.map Prod.fst).Nodup :=
    (same.map Prod.fst).nodup_iff.mpr (finalTextsDistinct cs)
  ext text
  rw [lastTextOfWrites distinct, same.mem_iff, memFinalTexts]

def letterLines (text : String) : Tree :=
  .node ⟨"program", true, false, false, false, "", 0, text.length⟩
    ((List.range (text.length / 9)).map fun i =>
      .node ⟨"command", true, false, false, false, "", 9 * i, 9 * i + 8⟩
        [.node ⟨"command_name", true, false, false, false, "name", 9 * i, 9 * i + 6⟩ [],
          .node ⟨"word", true, false, false, false, "argument", 9 * i + 7, 9 * i + 8⟩ []])

/- The last text under each URI is all that a history leaves: a document is what that text gives, and the
index is the one that these texts give when they are analyzed once each, in any order. -/
theorem historyRebuilt (settings : Settings) (parse : String → Tree) (fs : FileSystem)
    (steps : List Step) :
    (∀ uri, (run parse (.empty settings) (steps.map (fs, ·))).document? uri =
      (lastText? (changes settings fs steps) uri).map
        (Document.build parse fs settings.scriptExtension uri)) ∧
    ((finalTexts (changes settings fs steps)).map Prod.fst).Nodup ∧
    (∀ uri text, (uri, text) ∈ finalTexts (changes settings fs steps) ↔
      lastText? (changes settings fs steps) uri = some text) ∧
    (∀ order, order.Perm (finalTexts (changes settings fs steps)) →
      run parse (.empty settings) (steps.map (fs, ·)) = rebuild parse fs settings order) ∧
    ∀ others : List Step,
      (∀ uri, ((run parse (.empty settings) (steps.map (fs, ·))).document? uri).map (·.content) =
        ((run parse (.empty settings) (others.map (fs, ·))).document? uri).map (·.content)) →
      run parse (.empty settings) (steps.map (fs, ·)) = run parse (.empty settings) (others.map (fs, ·)) ∧
      SameAnswers (run parse (.empty settings) (steps.map (fs, ·)))
        (run parse (.empty settings) (others.map (fs, ·))) := by
  refine ⟨runDocument parse fs settings steps, finalTextsDistinct _, fun _ _ => memFinalTexts, ?_, ?_⟩
  · intro order same
    rw [runChanges, rebuildWrites]
    exact appliedEq parse fs settings fun uri => (lastTextOfOrder same uri).symm
  · intro others same
    have equal : run parse (.empty settings) (steps.map (fs, ·)) =
        run parse (.empty settings) (others.map (fs, ·)) := by
      rw [runChanges, runChanges]
      apply appliedEq parse fs settings
      intro uri
      have contents := same uri
      rw [runContents, runContents] at contents
      exact contents
    exact ⟨equal, sameAnswersOfEq equal⟩

def oneScript : FileSystem :=
  ⟨.directory [(Text.bytes "s.sh".toList, .file (Text.bytes "source b\n".toList))], [], fun _ => 4096⟩

def mixedSteps : List Step :=
  [.analyze "file:///a" "source b\n",
    .scan (fun _ _ => .ok [.ofText "/s.sh"]) (.ofText ".") ⟨"0", "1"⟩,
    .analyze "file:///a" "source c\n",
    .remove "file:///s.sh",
    .scan (fun _ _ => .error (.discovery "" "")) (.ofText ".") ⟨"0", "1"⟩,
    .analyze "file:///b" ""]

def lastSteps : List Step :=
  [.analyze "file:///b" "", .analyze "file:///a" "source c\n"]

theorem mixedRebuilt :
    (run letterLines (.empty .standard) (mixedSteps.map (oneScript, ·))).document? "file:///a" =
      some (.build letterLines oneScript "sh" "file:///a" "source c\n") ∧
    (run letterLines (.empty .standard) (mixedSteps.map (oneScript, ·))).document? "file:///s.sh" = none ∧
    run letterLines (.empty .standard) (mixedSteps.map (oneScript, ·)) =
      rebuild letterLines oneScript .standard [("file:///b", ""), ("file:///a", "source c\n")] ∧
    SameAnswers (run letterLines (.empty .standard) (mixedSteps.map (oneScript, ·)))
      (run letterLines (.empty .standard) (lastSteps.map (oneScript, ·))) := by
  obtain ⟨kept, _, _, rebuilt, agree⟩ := historyRebuilt .standard letterLines oneScript mixedSteps
  have left : changes .standard oneScript mixedSteps =
      [.write "file:///a" "source b\n", .write "file:///s.sh" "source b\n",
        .write "file:///a" "source c\n", .drop "file:///s.sh", .write "file:///b" ""] := by decide +kernel
  have right : changes .standard oneScript lastSteps =
      [.write "file:///b" "", .write "file:///a" "source c\n"] := by decide +kernel
  have written : lastText? (changes .standard oneScript mixedSteps) "file:///a" = some "source c\n" := by
    rw [left]
    decide
  have dropped : lastText? (changes .standard oneScript mixedSteps) "file:///s.sh" = none := by
    rw [left]
    decide
  refine ⟨?_, ?_, rebuilt _ (by decide +kernel), (agree lastSteps ?_).2⟩
  · rw [kept, written]
    rfl
  · rw [kept, dropped]
    rfl
  intro uri
  rw [runContents, runContents, left, right]
  by_cases first : uri = "file:///a"
  · subst first
    decide
  · by_cases second : uri = "file:///b"
    · subst second
      decide
    · by_cases third : uri = "file:///s.sh"
      · subst third
        decide
      · simp [lastText?, Change.uri, Ne.symm first, Ne.symm second, Ne.symm third]

end ShellAtlas.History
