import Mathlib.Data.List.Lex
import Mathlib.Data.List.Sort
import ShellAtlas.Proofs.Report
/-!
The listing of a directory tree without ignore rules. What the walk prunes on its way down is told of
whole routes: a file is listed if no name below the root is left out, the pattern accepts its relative
path and the depth reaches it. The listing is in the strict order of path components, so a depth only
filters it. A root that is spelled like the standard input has an empty listing.
-/
namespace ShellAtlas

namespace Path

def Component.rank : Component → Nat
  | .root => 0
  | .here => 1
  | .up => 2
  | .name _ => 3

inductive Component.Before : Component → Component → Prop where
  | kind {c d : Component} (less : c.rank < d.rank) : Before c d
  | name {m n : List UInt8} (less : m < n) : Before (.name m) (.name n)

instance : Std.Asymm Component.Before where
  asymm := by
    intro c d before after
    cases before with
    | kind less =>
      cases after with
      | kind more => exact Nat.lt_asymm less more
      | name more => exact Nat.lt_irrefl _ less
    | name less =>
      cases after with
      | kind more => exact Nat.lt_irrefl _ more
      | name more => exact List.lt_irrefl _ (List.lt_trans less more)

def Before (p q : Path) : Prop :=
  List.Lex Component.Before p.components q.components

instance : Std.Asymm Before where
  asymm _ _ before after := (List.Lex.asymm Component.Before).asymm _ _ before after

end Path

namespace FileNode

def at? : FileNode → List (List UInt8) → Option FileNode
  | n, [] => some n
  | n, name :: rest => (n.child? name).bind fun c => c.at? rest

theorem childFile (content name : List UInt8) : (FileNode.file content).child? name = none := rfl

theorem childIff {entries : List (List UInt8 × FileNode)} (apart : (entries.map Prod.fst).Nodup)
    {name : List UInt8} {c : FileNode} :
    (FileNode.directory entries).child? name = some c ↔ (name, c) ∈ entries := by
  simp only [child?, FileNode.entries, Option.map_eq_some_iff]
  constructor
  · rintro ⟨e, found, rfl⟩
    have same : e.1 = name := by simpa using List.find?_some found
    exact same ▸ List.mem_of_find?_eq_some found
  · intro member
    cases found : entries.find? (·.1 = name) with
    | none =>
      have other := List.find?_eq_none.mp found _ member
      simp at other
    | some e =>
      have same : e.1 = name := by simpa using List.find?_some found
      have one := List.inj_on_of_nodup_map apart (List.mem_of_find?_eq_some found) member same
      exact ⟨e, rfl, by rw [one]⟩

def Bare (n : FileNode) : Prop :=
  ∀ name ∈ [".ignore", ".gitignore", ".git"], n.child? (Ignore.nameOf name) = none

instance (n : FileNode) : Decidable n.Bare := by unfold Bare; infer_instance

inductive Unruled : FileNode → Prop where
  | file (content : List UInt8) : Unruled (.file content)
  | directory {entries : List (List UInt8 × FileNode)} (here : (FileNode.directory entries).Bare)
      (below : ∀ e ∈ entries, Unruled e.2) : Unruled (.directory entries)

end FileNode

namespace FileSystem

def Unruled (fs : FileSystem) (p : Path) : Prop :=
  ∀ e above, fs.trail p = .ok (e :: above) → e.2.Unruled ∧ ∀ d ∈ above, d.2.Bare

end FileSystem

namespace Ignore

structure Level.Silent (l : Level) : Prop where
  general : l.general.rules = []
  tracked : l.tracked.rules = []
  excluded : l.excluded.rules = []

def Chain.Silent (c : Chain) : Prop :=
  ∀ l ∈ c.below ++ c.above, l.Silent

theorem ruleEmpty (directory : List UInt8) : (RuleFile.ofContent directory []).rules = [] := by
  have lines : fileLines [] = [[]] := by decide +kernel
  have blank : Rule.ofLine? [] = none := rfl
  simp [RuleFile.ofContent, lines, blank]

theorem levelSilent (fs : FileSystem) (directory : List UInt8) {n : FileNode} (bare : n.Bare) :
    (Level.of fs directory n).Silent := by
  have general : contentAt n [".ignore"] = [] := by
    simp [contentAt, bare ".ignore" (by decide)]
  have tracked : contentAt n [".gitignore"] = [] := by
    simp [contentAt, bare ".gitignore" (by decide)]
  have excluded : exclusions fs n = [] := by
    simp [exclusions, contentAt, bare ".git" (by decide)]
  constructor
  · rw [Level.of, general]
    exact ruleEmpty directory
  · rw [Level.of, tracked]
    exact ruleEmpty directory
  · rw [Level.of, excluded]
    exact ruleEmpty directory

theorem ruleSilent {f : RuleFile} (silent : f.rules = []) (path : List UInt8) (isDirectory : Bool) :
    f.verdict path isDirectory = .none := by
  simp [RuleFile.verdict, silent]

theorem searchSilent {kind : Level → RuleFile} {levels : List (Level × List UInt8)}
    (silent : ∀ l ∈ levels, (kind l.1).rules = []) (stop : Level → Bool) (isDirectory : Bool) :
    Chain.search kind stop isDirectory levels = .none := by
  induction levels with
  | nil => rfl
  | cons l rest ih =>
    rw [Chain.search, ruleSilent (silent l (List.mem_cons_self ..)),
      ih fun x inside => silent x (List.mem_cons_of_mem _ inside)]
    split <;> rfl

theorem verdictSilent {c : Chain} (silent : c.Silent) (path absolute : List UInt8) (isDirectory : Bool) :
    c.verdict path absolute isDirectory = .none := by
  have each : ∀ l ∈ c.levels path absolute, l.1.Silent := by
    intro l member
    simp only [Chain.levels, List.mem_append, List.mem_map] at member
    rcases member with ⟨x, inside, rfl⟩ | ⟨x, inside, rfl⟩
    · exact silent x (List.mem_append_left _ inside)
    · exact silent x (List.mem_append_right _ inside)
  simp only [Chain.verdict, searchSilent fun l member => (each l member).general,
    searchSilent fun l member => (each l member).tracked,
    searchSilent fun l member => (each l member).excluded]
  split <;> rfl

end Ignore

namespace Discovery
open ShellAtlas.Path (IsName Component dot slash)

def LeftOut (name : List UInt8) : Prop :=
  name.head? = some dot ∨
    name ∈ ["node_modules", "target", "__pycache__"].map fun s => Text.bytes s.toList
instance (name : List UInt8) : Decidable (LeftOut name) := by unfold LeftOut; infer_instance

theorem skippedLeftOut {name : List UInt8} :
    (name.head? = some dot || isSkippedName name) = true ↔ LeftOut name := by
  simp only [LeftOut, Bool.or_eq_true, decide_eq_true_eq, isSkippedName]
  constructor
  · rintro (hidden | skipped)
    · exact .inl hidden
    · split at skipped
      · contradiction
      · rename_i cs read
        rw [Text.decodeIff.mp read]
        simp only [Bool.or_eq_true, decide_eq_true_eq, List.any_eq_true] at skipped
        rcases skipped with hidden | ⟨s, inside, rfl⟩
        · obtain ⟨rest, rfl⟩ := List.head?_eq_some_iff.mp hidden
          exact .inl rfl
        · exact .inr (List.mem_map_of_mem inside)
  · rintro (hidden | named)
    · exact .inl hidden
    · obtain ⟨s, inside, rfl⟩ := List.mem_map.mp named
      rw [Text.decodeIff.mpr rfl]
      simp only [Bool.or_eq_true, List.any_eq_true]
      exact .inr (.inr ⟨s, inside, by simp⟩)

theorem passesSilent {s : Start} {chain : Ignore.Chain} (silent : chain.Silent) (path name : List UInt8)
    (isDirectory : Bool) : passesOver s chain path name isDirectory = true ↔ LeftOut name := by
  rw [← skippedLeftOut, passesOver, Ignore.verdictSilent silent]
  simp

structure Walked (n : FileNode) (depth : Option Nat) (route : List (List UInt8)) : Prop where
  file : ∃ content, n.at? route = some (.file content)
  shown : ∀ name ∈ route, ¬ LeftOut name
  shallow : ∀ d ∈ depth, route.length ≤ d

theorem walkedFile {content : List UInt8} {depth : Option Nat} {route : List (List UInt8)} :
    Walked (.file content) depth route ↔ route = [] := by
  constructor
  · rintro ⟨⟨_, found⟩, _, _⟩
    cases route with
    | nil => rfl
    | cons name rest =>
      simp only [FileNode.at?, FileNode.childFile, Option.bind_none, reduceCtorEq] at found
  · rintro rfl
    exact ⟨⟨content, rfl⟩, by simp, by simp⟩

theorem deeperIff {depth : Option Nat} {k : Nat} :
    (∀ d ∈ depth, k + 1 ≤ d) ↔ ∃ rest, deeper depth = some rest ∧ ∀ d ∈ rest, k ≤ d := by
  cases depth with
  | none => simp [deeper]
  | some d => cases d <;> simp [deeper]

theorem walkedDirectory {entries : List (List UInt8 × FileNode)} (apart : (entries.map Prod.fst).Nodup)
    {depth : Option Nat} {route : List (List UInt8)} :
    Walked (.directory entries) depth route ↔
      ∃ rest, deeper depth = some rest ∧ ∃ e ∈ entries, ∃ below,
        route = e.1 :: below ∧ ¬ LeftOut e.1 ∧ Walked e.2 rest below := by
  constructor
  · rintro ⟨⟨content, found⟩, shown, shallow⟩
    cases route with
    | nil => cases found
    | cons name below =>
      simp only [FileNode.at?, Option.bind_eq_some_iff] at found
      obtain ⟨c, child, there⟩ := found
      obtain ⟨rest, further, enough⟩ := deeperIff.mp shallow
      exact ⟨rest, further, (name, c), (FileNode.childIff apart).mp child, below, rfl,
        shown name (List.mem_cons_self ..),
        ⟨content, there⟩, fun m inside => shown m (List.mem_cons_of_mem _ inside), enough⟩
  · rintro ⟨rest, further, ⟨name, c⟩, entry, below, rfl, first, ⟨content, there⟩, shown, enough⟩
    refine ⟨⟨content, ?_⟩, ?_, deeperIff.mpr ⟨rest, further, enough⟩⟩
    · simp only [FileNode.at?, (FileNode.childIff apart).mpr entry, Option.bind_some, there]
    · intro m member
      rcases List.mem_cons.mp member with rfl | inside
      · exact first
      · exact shown m inside

section Walk
variable {fs : FileSystem} {s : Start}

theorem memFilesOf {chain : Ignore.Chain} (silent : chain.Silent) {path : List UInt8}
    {names : List (List UInt8)} {depth : Option Nat} {entries : List (List UInt8 × FileNode)}
    {r : List (List UInt8)} :
    r ∈ filesOf fs s chain path names depth entries ↔ ∃ e ∈ entries, ¬ LeftOut e.1 ∧
      r ∈ filesIn fs s chain (entryPath path e.1) (e.1 :: names) depth e.2 := by
  induction entries with
  | nil => simp [filesOf]
  | cons e rest ih =>
    obtain ⟨name, n⟩ := e
    rw [filesOf, List.mem_append, ih, List.exists_mem_cons_iff]
    refine or_congr ?_ Iff.rfl
    by_cases out : LeftOut name
    · simp [(passesSilent silent _ _ _).mpr out, out]
    · simp [mt (passesSilent silent _ _ _).mp out, out]

theorem memFilesIn {n : FileNode} (unruled : n.Unruled) (distinct : n.Distinct) {chain : Ignore.Chain}
    (silent : chain.Silent) {path : List UInt8} {names : List (List UInt8)} {depth : Option Nat}
    {r : List (List UInt8)} :
    r ∈ filesIn fs s chain path names depth n ↔
      ∃ route, r = route.reverse ++ names ∧ Walked n depth route := by
  induction unruled generalizing chain path names depth with
  | file content => simp [filesIn, walkedFile]
  | @directory entries here below ih =>
    cases distinct with
    | directory apart each =>
      have further : Ignore.Chain.Silent
          ⟨Ignore.Level.of fs path (.directory entries) :: chain.below, chain.above⟩ := by
        intro l member
        rcases List.mem_cons.mp member with rfl | inside
        · exact Ignore.levelSilent fs path here
        · exact silent l inside
      simp only [walkedDirectory apart]
      rw [filesIn]
      cases reach : deeper depth with
      | none => simp
      | some rest =>
        simp only [memFilesOf further, Option.some.injEq]
        constructor
        · rintro ⟨e, member, shown, inside⟩
          obtain ⟨route, rfl, walked⟩ := (ih e member (each e member) further).mp inside
          exact ⟨e.1 :: route, by simp, rest, rfl, e, member, route, rfl, shown, walked⟩
        · rintro ⟨_, rfl, _, rfl, e, member, route, rfl, shown, walked⟩
          exact ⟨e, member, shown, (ih e member (each e member) further).mpr ⟨route, by simp, walked⟩⟩

theorem levelsSilent {t : Trail} (bare : ∀ e ∈ t, e.2.Bare) :
    ∀ l ∈ rulesAbove.levels fs t, l.Silent := by
  induction t with
  | nil => simp [rulesAbove.levels]
  | cons e rest ih =>
    intro l member
    rw [rulesAbove.levels] at member
    rcases List.mem_cons.mp member with rfl | inside
    · exact Ignore.levelSilent fs _ (bare e (List.mem_cons_self ..))
    · exact ih (fun x within => bare x (List.mem_cons_of_mem _ within)) l inside

end Walk

theorem lessLex {α : Type} [Ord α] [Std.LawfulEqOrd α] {r : α → α → Prop}
    (less : ∀ a b, compare a b = .lt → r a b) {xs ys : List α} (before : compare xs ys = .lt) :
    List.Lex r xs ys := by
  induction xs generalizing ys with
  | nil =>
    cases ys with
    | nil => simp at before
    | cons y ys => exact .nil
  | cons x xs ih =>
    cases ys with
    | nil => simp at before
    | cons y ys =>
      rw [List.compare_cons_cons, Ordering.then_eq_lt] at before
      rcases before with first | ⟨same, rest⟩
      · exact .rel (less x y first)
      · rw [Std.compare_eq_iff_eq] at same
        exact same ▸ .cons (ih rest)

theorem mapLex {α β : Type} {r : β → β → Prop} (f : α → β) {xs ys : List α}
    (before : List.Lex (fun a b => r (f a) (f b)) xs ys) : List.Lex r (xs.map f) (ys.map f) := by
  induction before with
  | nil => exact .nil
  | rel less => exact .rel less
  | cons _ ih => exact .cons ih

theorem beforeNames {r q : List (List UInt8)} (before : isBefore r q = true) (other : r ≠ q) :
    List.Lex Component.Before (r.map .name) (q.map .name) := by
  have names : ∀ m n : List UInt8, compare m n = .lt → Component.Before (.name m) (.name n) := by
    intro m n less
    have bytes : List.Lex (· < ·) m n := lessLex (fun _ _ => Std.compare_eq_lt.mp) less
    exact .name bytes
  unfold isBefore at before
  cases order : compare r q with
  | lt => exact mapLex Component.name (lessLex names order)
  | eq => exact absurd (Std.compare_eq_iff_eq.mp order) other
  | gt =>
    rw [order] at before
    contradiction

theorem sortedStrictly {routes : List (List (List UInt8))} (distinct : routes.Nodup) :
    (routes.mergeSort isBefore).Pairwise fun r q =>
      List.Lex Component.Before (r.map .name) (q.map .name) := by
  have sorted : (routes.mergeSort isBefore).Pairwise fun r q => isBefore r q = true := by
    refine List.pairwise_mergeSort ?_ ?_ routes
    · intro a b c first second
      exact Std.TransCmp.isLE_trans first second
    · intro a b
      unfold isBefore
      rw [Std.OrientedOrd.eq_swap (a := b)]
      cases compare a b <;> rfl
  have apart : (routes.mergeSort isBefore).Nodup := (List.mergeSort_perm _ _).nodup_iff.mpr distinct
  exact (sorted.and apart).imp fun both => beforeNames both.1 both.2

theorem listNowhere {fs : FileSystem} {root : Path} (missing : fs.isDirectory root = false)
    (pattern : String) (depth : Option Nat) :
    list fs root pattern depth = .error (.discovery root.display "root is not a directory") := by
  unfold list
  split
  · rename_i name entries above ok
    rw [FileSystem.directoryTrail.mpr ⟨name, entries, above, ok⟩] at missing
    contradiction
  · rfl

def selectedRoutes (fs : FileSystem) (root : Path) (t : Trail) (n : FileNode) (glob : Glob)
    (depth : Option Nat) : List (List (List UInt8)) :=
  ((filesIn fs ⟨root.bytes, directory t⟩ ⟨[], rulesAbove fs t⟩ root.bytes [] depth n).map
    List.reverse).filter fun r => glob.accepts (relativePath r)

section Listing
variable {fs : FileSystem} {root : Path} {pattern : String} {name : List UInt8}
  {entries : List (List UInt8 × FileNode)} {above : Trail}
  (ok : fs.trail root = .ok ((name, .directory entries) :: above))
include ok

theorem listBroken {fault : Glob.Fault} (broken : Glob.parse false pattern.toList = .error fault)
    (depth : Option Nat) :
    list fs root pattern depth = .error (.invalidGlob pattern (globMessage pattern fault)) := by
  simp only [list, ok, broken]

theorem listRoutes {glob : Glob} (parsed : Glob.parse false pattern.toList = .ok glob)
    (depth : Option Nat) :
    list fs root pattern depth = .ok (if isInputName root then [] else
      ((selectedRoutes fs root ((name, .directory entries) :: above) (.directory entries) glob
        depth).mergeSort isBefore).map fun r => root.join ⟨relativePath r⟩) := by
  simp only [list, ok, parsed]
  split <;> rfl

theorem joinedComponents (proper : fs.Proper) {glob : Glob} {depth : Option Nat}
    {route : List (List UInt8)} (member : route ∈ selectedRoutes fs root
      ((name, .directory entries) :: above) (.directory entries) glob depth) :
    (root.join ⟨relativePath route⟩).components = root.components ++ route.map .name := by
  simp only [selectedRoutes, List.mem_filter, List.mem_map] at member
  obtain ⟨⟨_, inside, rfl⟩, _⟩ := member
  obtain ⟨filled, named⟩ := routeNamed proper ok inside
  rw [relativePath, Path.joinComponents (Path.namesRelative named filled) (FileSystem.trailBytes ok),
    Path.namesInner named filled]

variable (proper : fs.Proper) (distinct : fs.root.Distinct)
include proper distinct

theorem routesSorted (glob : Glob) (depth : Option Nat) :
    (((selectedRoutes fs root ((name, .directory entries) :: above) (.directory entries) glob
      depth).mergeSort isBefore).map fun r => root.join ⟨relativePath r⟩).Pairwise Path.Before := by
  have apart : (selectedRoutes fs root ((name, .directory entries) :: above) (.directory entries) glob
      depth).Nodup := (routesDistinct proper distinct ok _ _ _ depth).filter _
  refine List.pairwise_map.mpr ((sortedStrictly apart).imp_of_mem ?_)
  intro r q first second less
  rw [Path.Before, joinedComponents ok proper (List.mem_mergeSort.mp first),
    joinedComponents ok proper (List.mem_mergeSort.mp second)]
  exact less.append_left _ root.components

variable (unruled : fs.Unruled root)
include unruled

theorem memRoutes {glob : Glob} {depth : Option Nat} {route : List (List UInt8)} :
    route ∈ selectedRoutes fs root ((name, .directory entries) :: above) (.directory entries) glob depth ↔
      Walked (.directory entries) depth route ∧ glob.accepts (relativePath route) = true := by
  obtain ⟨below, bare⟩ := unruled _ _ ok
  have apart := FileSystem.leadsDistinct distinct (FileSystem.trailLeads proper.current ok).1 _
    (List.mem_cons_self ..)
  have silent : Ignore.Chain.Silent ⟨[], rulesAbove fs ((name, .directory entries) :: above)⟩ := by
    intro l member
    exact levelsSilent bare l member
  simp only [selectedRoutes, List.mem_filter, List.mem_map, memFilesIn below apart silent,
    List.append_nil]
  refine and_congr_left' ?_
  constructor
  · rintro ⟨_, ⟨r, rfl, walked⟩, rfl⟩
    rwa [List.reverse_reverse]
  · intro walked
    exact ⟨route.reverse, ⟨route, rfl, walked⟩, List.reverse_reverse route⟩

theorem listWalked {glob : Glob} (parsed : Glob.parse false pattern.toList = .ok glob)
    (depth : Option Nat) :
    ∃ paths, list fs root pattern depth = .ok paths ∧ paths.Pairwise Path.Before ∧
      (isInputName root = true → paths = []) ∧
      (isInputName root = false → ∀ p, p ∈ paths ↔ ∃ route, Walked (.directory entries) depth route ∧
        glob.accepts (relativePath route) = true ∧ p = root.join ⟨relativePath route⟩) := by
  refine ⟨_, listRoutes ok parsed depth, ?_⟩
  cases input : isInputName root with
  | true => simp
  | false =>
    simp only [Bool.false_eq_true, if_false, false_implies, true_and, forall_const]
    refine ⟨routesSorted ok proper distinct glob depth, fun p => ?_⟩
    simp only [List.mem_map, List.mem_mergeSort, memRoutes ok proper distinct unruled, and_assoc,
      eq_comm (a := p)]

theorem walkedComponents {glob : Glob} {depth : Option Nat} {route : List (List UInt8)}
    (walked : Walked (.directory entries) depth route) (fits : glob.accepts (relativePath route) = true) :
    (root.join ⟨relativePath route⟩).components = root.components ++ route.map .name :=
  joinedComponents ok proper ((memRoutes ok proper distinct unruled).mpr ⟨walked, fits⟩)

theorem listShallow {glob : Glob} (parsed : Glob.parse false pattern.toList = .ok glob) (d : Nat) :
    list fs root pattern (some d) = (list fs root pattern none).map
      (List.filter fun p => p.components.length ≤ root.components.length + d) := by
  obtain ⟨near, first, nearSorted, nearInput, nearFound⟩ :=
    listWalked ok proper distinct unruled parsed (some d)
  obtain ⟨all, second, allSorted, allInput, allFound⟩ := listWalked ok proper distinct unruled parsed none
  rw [first, second]
  refine congrArg Except.ok ?_
  cases input : isInputName root with
  | true => rw [nearInput input, allInput input]; rfl
  | false =>
    refine nearSorted.eq_of_mem_iff (allSorted.filter _) fun p => ?_
    rw [nearFound input, List.mem_filter, allFound input, decide_eq_true_eq]
    constructor
    · rintro ⟨route, walked, fits, rfl⟩
      refine ⟨⟨route, ⟨walked.file, walked.shown, by simp⟩, fits, rfl⟩, ?_⟩
      rw [walkedComponents ok proper distinct unruled walked fits]
      simpa using walked.shallow d rfl
    · rintro ⟨⟨route, walked, fits, rfl⟩, few⟩
      rw [walkedComponents ok proper distinct unruled walked fits] at few
      refine ⟨route, ⟨walked.file, walked.shown, ?_⟩, fits, rfl⟩
      rintro _ ⟨⟩
      simpa using few

end Listing

/- A listing fails exactly where the root is no directory or the pattern is none. Otherwise it is in strict
order and holds just the files that are walked and accepted, but none at all below a root spelled like the
standard input. A depth takes from the whole listing what has few enough components. -/
theorem listingExact {fs : FileSystem} (proper : fs.Proper) (distinct : fs.root.Distinct) {root : Path}
    (unruled : fs.Unruled root) (pattern : String) :
    (∀ depth, (∃ e, list fs root pattern depth = .error e) ↔
      fs.isDirectory root = false ∨ ∃ fault, Glob.parse false pattern.toList = .error fault) ∧
    (∀ n glob, fs.node root = .ok n → n.isDirectory = true → Glob.parse false pattern.toList = .ok glob →
      ∀ depth, ∃ paths, list fs root pattern depth = .ok paths ∧ paths.Pairwise Path.Before ∧ paths.Nodup ∧
        (isInputName root = true → paths = []) ∧
        (isInputName root = false → ∀ p, p ∈ paths ↔ ∃ route, Walked n depth route ∧
          glob.accepts (relativePath route) = true ∧ p = root.join ⟨relativePath route⟩)) ∧
    ∀ d, list fs root pattern (some d) = (list fs root pattern none).map
      (List.filter fun p => p.components.length ≤ root.components.length + d) := by
  cases there : fs.isDirectory root with
  | false =>
    refine ⟨fun depth => ?_, ?_, fun d => ?_⟩
    · simp [listNowhere there]
    · intro n glob node directory
      rw [FileSystem.isDirectory, node] at there
      simp only at there
      rw [there] at directory
      contradiction
    · simp only [listNowhere there]
      rfl
  | true =>
    obtain ⟨name, entries, above, ok⟩ := FileSystem.directoryTrail.mp there
    cases parsed : Glob.parse false pattern.toList with
    | error fault =>
      refine ⟨fun depth => ?_, ?_, fun d => ?_⟩
      · simp [listBroken ok parsed]
      · simp
      · simp only [listBroken ok parsed]
        rfl
    | ok glob =>
      refine ⟨fun depth => ?_, ?_, listShallow ok proper distinct unruled parsed⟩
      · simp [listRoutes ok parsed]
      · intro n _ node _ same depth
        cases Except.ok.inj same
        have here := FileSystem.nodeTrail.mpr ⟨name, above, ok⟩
        cases Except.ok.inj (here.symm.trans node)
        obtain ⟨paths, listed, sorted, input, found⟩ :=
          listWalked ok proper distinct unruled parsed depth
        exact ⟨paths, listed, sorted, sorted.nodup, input, found⟩

def shelf : FileSystem :=
  ⟨.directory [(Text.bytes "target".toList, .directory [(Text.bytes "b.sh".toList, .file []),
    (Text.bytes "d".toList, .directory [(Text.bytes "a.sh".toList, .file [])])])], [], fun _ => 4096⟩

theorem shelfProper : shelf.Proper := by
  refine ⟨.directory (by decide) (List.forall_mem_singleton.mpr (.directory (by decide) ?_)), by decide⟩
  refine List.forall_mem_cons.mpr ⟨.file [], List.forall_mem_singleton.mpr (.directory (by decide) ?_)⟩
  exact List.forall_mem_singleton.mpr (.file [])

theorem shelfDistinct : shelf.root.Distinct := by
  refine .directory (by decide) (List.forall_mem_singleton.mpr (.directory (by decide) ?_))
  refine List.forall_mem_cons.mpr ⟨.file [], List.forall_mem_singleton.mpr (.directory (by decide) ?_)⟩
  exact List.forall_mem_singleton.mpr (.file [])

theorem shelfUnruled : shelf.Unruled (.ofText "/target") := by
  intro e above ok
  cases Except.ok.inj ok
  refine ⟨.directory (by decide +kernel) ?_, by decide +kernel⟩
  refine List.forall_mem_cons.mpr ⟨.file [], List.forall_mem_singleton.mpr (.directory (by decide +kernel) ?_)⟩
  exact List.forall_mem_singleton.mpr (.file [])

theorem shelfListed :
    (∃ paths, list shelf (.ofText "/target") "**/*.sh" none = .ok paths ∧ paths.Pairwise Path.Before ∧
      paths.Nodup ∧ Path.ofText "/target/d/a.sh" ∈ paths) ∧
    (list shelf (.ofText "/target") "**/*.sh" none).map
        (List.filter fun p => p.components.length ≤ (Path.ofText "/target").components.length + 1) =
      .ok [.ofText "/target/b.sh"] ∧
    ∃ e, list shelf (.ofText "/target") "[" none = .error e := by
  obtain ⟨_, lists, shallow⟩ := listingExact shelfProper shelfDistinct shelfUnruled "**/*.sh"
  obtain ⟨fails, _, _⟩ := listingExact shelfProper shelfDistinct shelfUnruled "["
  refine ⟨?_, ?_, (fails none).mpr (.inr ⟨_, rfl⟩)⟩
  · obtain ⟨paths, listed, sorted, apart, _, found⟩ := lists _ _ rfl rfl rfl none
    refine ⟨paths, listed, sorted, apart, (found (by decide +kernel) _).mpr ?_⟩
    exact ⟨[Text.bytes "d".toList, Text.bytes "a.sh".toList], ⟨⟨[], rfl⟩, by decide +kernel, by simp⟩,
      by decide +kernel, by decide +kernel⟩
  · rw [← shallow 1]
    decide +kernel

def dashed : FileSystem :=
  ⟨.directory [(Text.bytes ['-'], .directory [(Text.bytes "a.sh".toList, .file [])])], [], fun _ => 4096⟩

theorem dashUnlisted :
    dashed.Proper ∧ dashed.root.Distinct ∧ dashed.Unruled (.ofText "-") ∧
    (∃ n glob, dashed.node (.ofText "-") = .ok n ∧ n.isDirectory = true ∧
      Glob.parse false "**/*.sh".toList = .ok glob ∧ Walked n none [Text.bytes "a.sh".toList] ∧
      glob.accepts (relativePath [Text.bytes "a.sh".toList]) = true) ∧
    list dashed (.ofText "-") "**/*.sh" none = .ok [] := by
  refine ⟨⟨?_, by decide⟩, ?_, ?_, ?_, by decide +kernel⟩
  · exact .directory (by decide) (List.forall_mem_singleton.mpr
      (.directory (by decide) (List.forall_mem_singleton.mpr (.file []))))
  · exact .directory (by decide) (List.forall_mem_singleton.mpr
      (.directory (by decide) (List.forall_mem_singleton.mpr (.file []))))
  · intro e above ok
    cases Except.ok.inj ok
    exact ⟨.directory (by decide +kernel) (List.forall_mem_singleton.mpr (.file [])), by decide +kernel⟩
  · exact ⟨_, _, rfl, rfl, rfl, ⟨⟨[], rfl⟩, by decide +kernel, by simp⟩, by decide +kernel⟩

end Discovery

end ShellAtlas
