import Mathlib.Data.List.TakeWhile
import ShellAtlas.Proofs.Path
import ShellAtlas.Sourcing
/-!
File URIs read back. What is written for a path holds no character that reading drops, cuts or takes
for a step, so the URI of a path in normal form leads back to its components. Two absolute paths
have one URI exactly if they have the same components.
-/
namespace ShellAtlas.FileUri
open ShellAtlas.Path (Component IsName dot slash)

theorem everyByte {P : UInt8 → Prop} (all : ∀ n < 256, P (UInt8.ofNat n)) (b : UInt8) : P b := by
  have here := all b.toNat b.toNat_lt
  rwa [UInt8.ofNat_toNat] at here

theorem writtenChar (b : UInt8) : ∀ c ∈ escapeByte b,
    isOuter c = false ∧ isRemoved c = false ∧ isSlash c = false ∧ endsPath c = false := by
  have all : ∀ b, ((escapeByte b).all fun c =>
      !isOuter c && !isRemoved c && !isSlash c && !endsPath c) = true := everyByte (by decide +kernel)
  intro c member
  simpa [and_assoc] using List.all_eq_true.mp (all b) c member

theorem escapeChar {n : List UInt8} {c : Char} (written : c ∈ escape n) :
    isOuter c = false ∧ isRemoved c = false ∧ isSlash c = false ∧ endsPath c = false := by
  obtain ⟨b, _, member⟩ := List.mem_flatMap.mp written
  exact writtenChar b c member

theorem escapeNil {n : List UInt8} (empty : escape n = []) : n = [] := by
  cases n with
  | nil => rfl
  | cons b rest =>
    have filled : ∀ b, escapeByte b ≠ [] := everyByte (by decide +kernel)
    simp [escape, filled] at empty

def digitByte (n : Nat) : UInt8 :=
  UInt8.ofNat (Text.hexDigit n).toNat

theorem escapedBytes (b : UInt8) :
    Text.bytes (Text.escaped b) =
      [Text.percent, digitByte (b.toNat / 16), digitByte (b.toNat % 16)] ∧
    Text.hexValue? (digitByte (b.toNat / 16)) = some (UInt8.ofNat (b.toNat / 16)) ∧
    Text.hexValue? (digitByte (b.toNat % 16)) = some (UInt8.ofNat (b.toNat % 16)) ∧
    UInt8.ofNat (b.toNat / 16) * 16 + UInt8.ofNat (b.toNat % 16) = b := by
  revert b
  exact everyByte (by decide +kernel)

theorem plainBytes (b : UInt8) : isEscaped b = false →
    Text.bytes [Char.ofNat b.toNat] = [b] ∧ b ≠ Text.percent := by
  revert b
  exact everyByte (by decide +kernel)

theorem unescapePlain {b : UInt8} (plain : b ≠ Text.percent) (rest : List UInt8) :
    Text.unescape (b :: rest) = b :: Text.unescape rest := by
  match rest with
  | [] => rfl
  | [_] => rfl
  | _ :: _ :: _ => simp [Text.unescape, plain]

theorem unescapeByte (b : UInt8) (rest : List UInt8) :
    Text.unescape (Text.bytes (escapeByte b) ++ rest) = b :: Text.unescape rest := by
  unfold escapeByte
  split
  · obtain ⟨bytes, high, low, value⟩ := escapedBytes b
    simp [bytes, Text.unescape, high, low, value]
  · rename_i plain
    obtain ⟨bytes, other⟩ := plainBytes b (by simpa using plain)
    rw [bytes]
    exact unescapePlain other rest

theorem bytesAppend (xs ys : List Char) : Text.bytes (xs ++ ys) = Text.bytes xs ++ Text.bytes ys :=
  List.flatMap_append ..

theorem unescapeEscape (n rest : List UInt8) :
    Text.unescape (Text.bytes (escape n) ++ rest) = n ++ Text.unescape rest := by
  induction n with
  | nil => rfl
  | cons b more ih =>
    have front : escape (b :: more) = escapeByte b ++ escape more := rfl
    rw [front, bytesAppend, List.append_assoc, unescapeByte, ih, List.cons_append]

theorem escapeInjective {n m : List UInt8} (same : escape n = escape m) : n = m := by
  have left := unescapeEscape n []
  rw [same, unescapeEscape] at left
  simpa using left.symm

def dotSpellings : List (List Char) :=
  [['.'], ['%', '2', 'e']]

theorem dotByte (b : UInt8) : b ≠ dot → ∀ d ∈ dotSpellings,
    ¬ (escapeByte b).map Char.toLower <+: d ∧ ¬ d <+: (escapeByte b).map Char.toLower := by
  revert b
  exact everyByte (by decide +kernel)

theorem dotEscaped {n : List UInt8} {d rest : List Char} (spelling : d ∈ dotSpellings)
    (same : (escape n).map Char.toLower = d ++ rest) :
    ∃ m, n = dot :: m ∧ (escape m).map Char.toLower = rest := by
  cases n with
  | nil =>
    have filled : ∀ d ∈ dotSpellings, d ≠ [] := by decide
    exact absurd (List.append_eq_nil_iff.mp same.symm).1 (filled d spelling)
  | cons b m =>
    have split : (escapeByte b).map Char.toLower ++ (escape m).map Char.toLower = d ++ rest := by
      rw [← List.map_append]
      exact same
    by_cases isDot : b = dot
    · subst isDot
      rcases List.mem_cons.mp spelling with rfl | other
      · exact ⟨m, rfl, List.tail_eq_of_cons_eq split⟩
      · rw [List.mem_singleton.mp other] at split
        exact absurd (List.head_eq_of_cons_eq split) (by decide)
    · obtain ⟨shorter, longer⟩ := dotByte b isDot d spelling
      have front : (escapeByte b).map Char.toLower <+: d ++ rest := ⟨_, split⟩
      rcases List.prefix_or_prefix_of_prefix front (List.prefix_append d rest) with h | h
      · exact absurd h shorter
      · exact absurd h longer

theorem hereEscaped {n : List UInt8} (here : isHere (escape n) = true) : n = [dot] := by
  have table : ∀ s ∈ [".", "%2e"], ∃ d ∈ dotSpellings, s.toList = d ++ [] := by decide
  obtain ⟨s, member, same⟩ := List.any_eq_true.mp here
  obtain ⟨d, spelling, spelled⟩ := table s member
  obtain ⟨m, rfl, rest⟩ := dotEscaped spelling ((of_decide_eq_true same).trans spelled)
  rw [escapeNil (List.map_eq_nil_iff.mp rest)]

theorem upEscaped {n : List UInt8} (up : isUp (escape n) = true) : n = [dot, dot] := by
  have table : ∀ s ∈ ["..", ".%2e", "%2e.", "%2e%2e"],
      ∃ d ∈ dotSpellings, ∃ e ∈ dotSpellings, s.toList = d ++ (e ++ []) := by decide
  obtain ⟨s, member, same⟩ := List.any_eq_true.mp up
  obtain ⟨d, first, e, second, spelled⟩ := table s member
  obtain ⟨m, rfl, behind⟩ := dotEscaped first ((of_decide_eq_true same).trans spelled)
  obtain ⟨l, rfl, rest⟩ := dotEscaped second behind
  rw [escapeNil (List.map_eq_nil_iff.mp rest)]

def letter (c : Char) : Letter :=
  ⟨c, false⟩

theorem charsLetters (cs : List Char) : chars (cs.map letter) = cs := by
  rw [chars, List.map_map]
  exact List.map_id cs

theorem lettersPlain {cs : List Char} (plain : ∀ c ∈ cs, isRemoved c = false) :
    letters false cs = cs.map letter := by
  induction cs with
  | nil => rfl
  | cons c rest ih =>
    have later := ih fun d inside => plain d (List.mem_cons_of_mem _ inside)
    simp [letters, plain c (List.mem_cons_self ..), later, letter]

theorem outerKept {cs : List Char} (plain : ∀ c ∈ cs, isOuter c = false) :
    cs.dropWhile isOuter = cs := by
  cases cs with
  | nil => rfl
  | cons c rest => simp [plain c (List.mem_cons_self ..)]

theorem cleanedPlain {cs : List Char} (plain : ∀ c ∈ cs, isOuter c = false ∧ isRemoved c = false) :
    cleaned cs = cs.map letter := by
  have front := outerKept fun c member => (plain c member).1
  have back : cs.reverse.dropWhile isOuter = cs.reverse :=
    outerKept fun c member => (plain c (List.mem_reverse.mp member)).1
  rw [cleaned, front, back, List.reverse_reverse]
  exact lettersPlain fun c member => (plain c member).2

theorem toPathBody {body : List Char} (plain : ∀ c ∈ body, isOuter c = false ∧ isRemoved c = false) :
    toPath? (String.ofList ("file:///".toList ++ body)) =
      some (walk [[]] (body.map letter)).path := by
  have start : ("file:///".toList.all fun c => !isOuter c && !isRemoved c) = true := by decide
  have word : ∀ c ∈ "file:///".toList, isOuter c = false ∧ isRemoved c = false := fun c member => by
    simpa using List.all_eq_true.mp start c member
  have clean : cleaned ("file:///".toList ++ body) = ("file:///".toList ++ body).map letter := by
    apply cleanedPlain
    intro c member
    rcases List.mem_append.mp member with front | behind
    · exact word c front
    · exact plain c behind
  have text : (String.ofList ("file:///".toList ++ body)).toList = "file:///".toList ++ body :=
    String.toList_ofList
  rw [toPath?, text, clean]
  rfl

theorem writtenComponents (cs : List Component) :
    writeComponents cs = '/' :: ['/'].intercalate (cs.map fun c => escape c.bytes) := by
  have joined : ∀ c rest, (c :: rest).flatMap (fun c : Component => '/' :: escape c.bytes) =
      '/' :: ['/'].intercalate ((c :: rest).map fun c => escape c.bytes) := by
    intro c rest
    induction rest generalizing c with
    | nil => simp
    | cons d more ih =>
      rw [List.flatMap_cons, ih]
      simp
  cases cs with
  | nil => rfl
  | cons c rest =>
    rw [writeComponents, if_neg (by simp)]
    exact joined c rest

theorem uriText {p : Path} (absolute : p.isAbsolute = true) :
    p.uri = String.ofList ("file:///".toList ++
      ['/'].intercalate (p.inner.map fun c => escape c.bytes)) := by
  simp only [Path.uri, ofPath?, absolute, if_true, Option.getD_some,
    Path.componentsAbsolute absolute, List.tail_cons, writtenComponents]
  rfl

theorem bodyPlain {ns : List (List UInt8)} {c : Char}
    (member : c ∈ ['/'].intercalate (ns.map escape)) :
    isOuter c = false ∧ isRemoved c = false ∧ endsPath c = false := by
  rcases Path.memIntercalate member with rfl | ⟨l, inside, found⟩
  · decide
  · obtain ⟨n, _, rfl⟩ := List.mem_map.mp inside
    obtain ⟨outer, removed, _, ends⟩ := escapeChar found
    exact ⟨outer, removed, ends⟩

theorem splitIntercalate {α : Type} {p : α → Bool} {x : α} (isSeparator : p x = true)
    {ls : List (List α)} (filled : ls ≠ []) (plain : ∀ l ∈ ls, ∀ y ∈ l, p y = false) :
    ([x].intercalate ls).splitOnP p = ls := by
  match ls with
  | [] => exact absurd rfl filled
  | [l] =>
    rw [List.intercalate_singleton]
    exact List.splitOnP_eq_singleton (plain l (by simp))
  | l :: next :: rest =>
    rw [List.intercalate_cons_cons, List.append_assoc, List.singleton_append,
      List.splitOnP_append_cons_of_forall_mem (plain l (by simp)) x isSeparator]
    rw [splitIntercalate isSeparator (by simp) fun m inside => plain m (List.mem_cons_of_mem _ inside)]

theorem mapIntercalate {α β : Type} (f : α → β) (x : α) (ls : List (List α)) :
    ([x].intercalate ls).map f = [f x].intercalate (ls.map (List.map f)) := by
  match ls with
  | [] => rfl
  | [l] => simp
  | l :: next :: rest =>
    rw [List.intercalate_cons_cons, List.map_append, List.map_append, mapIntercalate f x (next :: rest)]
    simp

theorem bodySegments {ns : List (List UInt8)} (filled : ns ≠ []) :
    segments ((['/'].intercalate (ns.map escape)).map letter) =
      ns.map fun n => (escape n).map letter := by
  rw [mapIntercalate, segments, splitIntercalate (by decide) (by simpa using filled)]
  · simp
  · intro l member y inside
    obtain ⟨cs, within, rfl⟩ := List.mem_map.mp member
    obtain ⟨n, _, rfl⟩ := List.mem_map.mp within
    obtain ⟨c, found, rfl⟩ := List.mem_map.mp inside
    exact (escapeChar found).2.2.1

theorem stepName {n : List UInt8} (proper : IsName n) {w : Walk} (started : w.done ≠ []) (last : Bool) :
    w.step ((escape n).map letter) last = ⟨escape n :: w.done, w.onDrive⟩ := by
  have notUp : isUp (escape n) = false :=
    Bool.eq_false_iff.mpr fun up => proper.2.2.1 (upEscaped up)
  have notHere : isHere (escape n) = false :=
    Bool.eq_false_iff.mpr fun here => proper.2.1 (hereEscaped here)
  simp [Walk.step, started, charsLetters, notUp, notHere]

theorem runNames {ns : List (List UInt8)} (proper : ∀ n ∈ ns, IsName n) {w : Walk}
    (started : w.done ≠ []) :
    Walk.run w (ns.map fun n => (escape n).map letter) =
      ⟨(ns.map escape).reverse ++ w.done, w.onDrive⟩ := by
  induction ns generalizing w with
  | nil => rfl
  | cons n rest ih =>
    have first := proper n (List.mem_cons_self ..)
    cases rest with
    | nil => simp [Walk.run, stepName first started]
    | cons m more =>
      have later := ih (fun l inside => proper l (List.mem_cons_of_mem _ inside))
        (w := ⟨escape n :: w.done, w.onDrive⟩) (by simp)
      rw [List.map_cons, List.map_cons, Walk.run, stepName first started]
      rw [List.map_cons] at later
      rw [later]
      simp

theorem walkNames {ns : List (List UInt8)} (proper : ∀ n ∈ ns, IsName n) (filled : ns ≠ []) :
    walk [[]] ((['/'].intercalate (ns.map escape)).map letter) =
      ⟨(ns.map escape).reverse ++ [[]], false⟩ := by
  have whole : ((['/'].intercalate (ns.map escape)).map letter).takeWhile
      (fun l => !endsPath l.char) = (['/'].intercalate (ns.map escape)).map letter := by
    rw [List.takeWhile_eq_self_iff]
    intro l member
    obtain ⟨c, inside, rfl⟩ := List.mem_map.mp member
    simp [letter, (bodyPlain inside).2.2]
  rw [walk, whole, bodySegments filled, runNames proper (by simp)]

theorem spellNames {ns : List (List UInt8)} (proper : ∀ n ∈ ns, IsName n) :
    spell ([] :: ns.map escape) = '/' :: ['/'].intercalate (ns.map escape) := by
  cases ns with
  | nil => rfl
  | cons n rest =>
    have filled : escape n ≠ [] := fun empty => (proper n (List.mem_cons_self ..)).1 (escapeNil empty)
    simp [spell, filled]

theorem unescapeNames (ns : List (List UInt8)) :
    Text.unescape (Text.bytes (['/'].intercalate (ns.map escape))) = [slash].intercalate ns := by
  have alone : ∀ n, Text.unescape (Text.bytes (escape n)) = n := fun n => by
    simpa [Text.unescape] using unescapeEscape n []
  match ns with
  | [] => rfl
  | [n] => simpa using alone n
  | n :: m :: rest =>
    have later := unescapeNames (m :: rest)
    rw [List.map_cons, List.map_cons, List.intercalate_cons_cons, List.append_assoc, bytesAppend,
      unescapeEscape, List.singleton_append, ← List.map_cons]
    rw [show Text.bytes ('/' :: ['/'].intercalate ((m :: rest).map escape)) =
      slash :: Text.bytes (['/'].intercalate ((m :: rest).map escape)) from rfl,
      unescapePlain (by decide), later]
    simp

theorem closeDriveCases (bs : List UInt8) : closeDrive bs = bs ∨ closeDrive bs = bs ++ [slash] := by
  unfold closeDrive
  split
  · split
    · exact .inr rfl
    · exact .inl rfl
  · exact .inl rfl

theorem closeDriveInner (bs : List UInt8) :
    (Path.mk (closeDrive bs)).inner = (Path.mk bs).inner := by
  rcases closeDriveCases bs with same | closed
  · rw [same]
  · rw [closed, Path.closedInner]

theorem closeDriveAbsolute {bs : List UInt8} (absolute : (Path.mk bs).isAbsolute = true) :
    (Path.mk (closeDrive bs)).isAbsolute = true := by
  rcases closeDriveCases bs with same | closed
  · rw [same]
    exact absolute
  · rw [closed]
    cases bs with
    | nil => simp [Path.isAbsolute] at absolute
    | cons b rest => exact absolute

theorem walkedNames {ns : List (List UInt8)} (proper : ∀ n ∈ ns, IsName n) :
    (walk [[]] ((['/'].intercalate (ns.map escape)).map letter)).path =
      ⟨closeDrive (Path.ofNames ns).bytes⟩ := by
  rw [Path.ofNamesBytes]
  by_cases empty : ns = []
  · subst empty
    rfl
  · rw [walkNames proper empty, Walk.path]
    simp only [List.reverse_append, List.reverse_reverse, List.reverse_singleton,
      List.singleton_append]
    rw [spellNames proper]
    rw [show Text.bytes ('/' :: ['/'].intercalate (ns.map escape)) =
      slash :: Text.bytes (['/'].intercalate (ns.map escape)) from rfl,
      unescapePlain (by decide), unescapeNames]

theorem toPathCanonical {p : Path} (canonical : p.IsCanonical) :
    toPath? p.uri = some ⟨closeDrive p.bytes⟩ := by
  have proper := Path.routeProper p
  have names : p.inner = p.route.map Component.name := by
    have components := Path.componentsOfNames proper
    rw [← Path.canonicalRoute canonical, Path.componentsAbsolute canonical.1] at components
    exact List.tail_eq_of_cons_eq components
  have body : (p.inner.map fun c => escape c.bytes) = p.route.map escape := by
    rw [names, List.map_map]
    rfl
  have whole : (Path.ofNames p.route).bytes = p.bytes :=
    congrArg Path.bytes (Path.canonicalRoute canonical).symm
  rw [uriText canonical.1, body, toPathBody, walkedNames proper, whole]
  intro c member
  have plain := bodyPlain member
  exact ⟨plain.1, plain.2.1⟩

theorem toPathOfUri {p : Path} (canonical : p.IsCanonical) :
    ∃ q : Path, toPath? p.uri = some q ∧ q.isAbsolute = true ∧ q.components = p.components := by
  have absolute : (Path.mk (closeDrive p.bytes)).isAbsolute = true :=
    closeDriveAbsolute canonical.1
  refine ⟨⟨closeDrive p.bytes⟩, toPathCanonical canonical, absolute, ?_⟩
  rw [Path.componentsAbsolute absolute, closeDriveInner, Path.componentsAbsolute canonical.1]

theorem innerFilled {p : Path} {l : List Char} (member : l ∈ p.inner.map fun c => escape c.bytes) :
    l ≠ [] ∧ '/' ∉ l := by
  obtain ⟨c, inside, rfl⟩ := List.mem_map.mp member
  refine ⟨fun empty => (Path.bytesPlain (Path.innerSolid inside)).2 (escapeNil empty), ?_⟩
  intro written
  exact absurd (escapeChar written).2.2.1 (by decide)

theorem intercalateFilled {α : Type} {sep : List α} {ls : List (List α)} (filled : ∀ l ∈ ls, l ≠ [])
    (empty : sep.intercalate ls = []) : ls = [] := by
  match ls with
  | [] => rfl
  | [l] => exact absurd (by simpa using empty) (filled l (by simp))
  | l :: next :: rest =>
    rw [List.intercalate_cons_cons, List.append_assoc, List.append_eq_nil_iff] at empty
    exact absurd empty.1 (filled l (by simp))

theorem intercalateInjective {α : Type} [BEq α] [LawfulBEq α] {x : α} {ls ms : List (List α)}
    (left : ∀ l ∈ ls, l ≠ [] ∧ x ∉ l) (right : ∀ l ∈ ms, l ≠ [] ∧ x ∉ l)
    (same : [x].intercalate ls = [x].intercalate ms) : ls = ms := by
  by_cases empty : ls = []
  · subst empty
    exact (intercalateFilled (fun l member => (right l member).1) same.symm).symm
  · have other : ms ≠ [] := by
      rintro rfl
      exact empty (intercalateFilled (fun l member => (left l member).1) same)
    rw [← List.splitOn_intercalate x (fun l member => (left l member).2) empty, same,
      List.splitOn_intercalate x (fun l member => (right l member).2) other]

theorem mapSolidInjective {cs ds : List Component} (left : ∀ c ∈ cs, c.Solid) (right : ∀ c ∈ ds, c.Solid)
    (same : (cs.map fun c => escape c.bytes) = ds.map fun c => escape c.bytes) : cs = ds := by
  induction cs generalizing ds with
  | nil => simpa using same.symm
  | cons c rest ih =>
    cases ds with
    | nil => simp at same
    | cons d more =>
      simp only [List.map_cons, List.cons.injEq] at same
      have first : c = d := Path.bytesInjective (left c (List.mem_cons_self ..))
        (right d (List.mem_cons_self ..)) (escapeInjective same.1)
      rw [first, ih (fun e inside => left e (List.mem_cons_of_mem _ inside))
        (fun e inside => right e (List.mem_cons_of_mem _ inside)) same.2]

theorem uriEqIff {p q : Path} (left : p.isAbsolute = true) (right : q.isAbsolute = true) :
    p.uri = q.uri ↔ p.components = q.components := by
  constructor
  · intro same
    rw [uriText left, uriText right, String.ofList_inj, List.append_cancel_left_eq] at same
    have texts := intercalateInjective (fun _ => innerFilled) (fun _ => innerFilled) same
    have inner := mapSolidInjective (fun _ => Path.innerSolid) (fun _ => Path.innerSolid) texts
    rw [Path.componentsAbsolute left, Path.componentsAbsolute right, inner]
  · intro same
    rw [Path.componentsAbsolute left, Path.componentsAbsolute right] at same
    rw [uriText left, uriText right, List.tail_eq_of_cons_eq same]

theorem uriInjective {p q : Path} (left : p.IsCanonical) (right : q.IsCanonical)
    (same : p.uri = q.uri) : p = q := by
  have components := (uriEqIff left.1 right.1).mp same
  rw [← Path.canonicalComponents left, components, Path.canonicalComponents right]

/- A path that normalizing leaves as it is, however it is spelled, is read back from its URI component
by component, and paths that differ in a component differ in their URIs. -/
theorem uriLeadsBack :
    (∀ p : Path, p.isAbsolute = true → p.normalize.components = p.components →
      ∃ q : Path, toPath? p.uri = some q ∧ q.isAbsolute = true ∧ q.components = p.components) ∧
    (∀ p q : Path, p.isAbsolute = true → q.isAbsolute = true →
      (p.uri = q.uri ↔ p.components = q.components)) ∧
    ∀ p q : Path, p.IsCanonical → q.IsCanonical → p.uri = q.uri → p = q := by
  refine ⟨?_, fun _ _ => uriEqIff, fun _ _ => uriInjective⟩
  intro p absolute normal
  have canonical := Path.normalizeCanonical absolute
  have spelling : p.uri = p.normalize.uri := (uriEqIff absolute canonical.1).mpr normal.symm
  rw [spelling, ← normal]
  exact toPathOfUri canonical

def hardNames : Path :=
  ⟨Text.bytes "//%2e%2E/".toList ++ 0xFF :: Text.bytes "#?\\ \n\"|/.../C:/".toList⟩

theorem hardNamesLeadBack :
    (∃ q : Path, toPath? hardNames.uri = some q ∧ q.isAbsolute = true ∧
      q.components = hardNames.components) ∧
    hardNames.uri = hardNames.normalize.uri ∧ hardNames ≠ hardNames.normalize ∧
    hardNames.normalize.uri ≠ (Path.ofText "/.../C:").uri := by
  obtain ⟨back, spellings, apart⟩ := uriLeadsBack
  refine ⟨back hardNames (by decide +kernel) (by decide +kernel), ?_, by decide +kernel, ?_⟩
  · exact (spellings _ _ (by decide +kernel) (by decide +kernel)).mpr (by decide +kernel)
  · intro same
    exact absurd (apart _ _ (by decide +kernel) (by decide +kernel) same) (by decide +kernel)

end ShellAtlas.FileUri
