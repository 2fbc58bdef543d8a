import ShellAtlas.Proofs.Naming
import ShellAtlas.Proofs.Utf8
/-!
Names of sourced files. A target is named by the URI of its path, or by the path itself where the
document that names it is no file URI or has no directory. Either way the name leads back to the
path, so one name never stands for a file and for a missing one.
-/
namespace ShellAtlas

namespace Text
open ShellAtlas.Path (slash)

def Encoded (bs : List UInt8) : Prop :=
  ∃ cs, bs = bytes cs

theorem encodedAppend {xs ys : List UInt8} (left : Encoded xs) (right : Encoded ys) :
    Encoded (xs ++ ys) := by
  obtain ⟨cs, rfl⟩ := left
  obtain ⟨ds, rfl⟩ := right
  exact ⟨cs ++ ds, (FileUri.bytesAppend cs ds).symm⟩

theorem encodedSlash : Encoded [slash] :=
  ⟨['/'], rfl⟩

theorem encodedIntercalate {ls : List (List UInt8)} (each : ∀ l ∈ ls, Encoded l) :
    Encoded ([slash].intercalate ls) := by
  match ls with
  | [] => exact ⟨[], rfl⟩
  | [l] => simpa using each l
  | l :: next :: rest =>
    rw [List.intercalate_cons_cons]
    have later := encodedIntercalate fun m inside => each m (List.mem_cons_of_mem _ inside)
    exact encodedAppend (encodedAppend (each l (List.mem_cons_self ..)) encodedSlash) later

theorem encodedSegments (cs : List Char) {s : List UInt8} (member : s ∈ (bytes cs).splitOn slash) :
    Encoded s := by
  by_cases inside : '/' ∈ cs
  · obtain ⟨front, back, whole⟩ := List.append_of_mem inside
    have parts : (bytes cs).splitOn slash =
        (bytes front).splitOn slash ++ (bytes back).splitOn slash := by
      rw [whole, FileUri.bytesAppend]
      exact List.splitOn_append_cons_self ..
    rw [parts] at member
    rcases List.mem_append.mp member with first | second
    · exact encodedSegments front first
    · exact encodedSegments back second
  · rw [List.splitOn_eq_singleton fun byte => inside (slashChar byte)] at member
    exact ⟨cs, List.mem_singleton.mp member⟩
termination_by cs.length
decreasing_by
  all_goals
    simp only [whole, List.length_append, List.length_cons]
    omega

end Text

namespace Path
open ShellAtlas.Text (Encoded)

theorem encodedComponents {p : Path} (encoded : Encoded p.bytes) {c : Component}
    (member : c ∈ p.components) : Encoded c.bytes := by
  obtain ⟨cs, text⟩ := encoded
  have inner : ∀ c ∈ p.inner, Encoded c.bytes := fun c inside => by
    obtain ⟨s, within, read⟩ := List.mem_filterMap.mp inside
    rw [(ofSegmentSolid (segmentPlain within) read).2]
    rw [segments, text] at within
    exact Text.encodedSegments cs within
  cases absolute : p.isAbsolute with
  | true =>
    rw [componentsAbsolute absolute] at member
    rcases List.mem_cons.mp member with rfl | inside
    · exact ⟨[], rfl⟩
    · exact inner c inside
  | false =>
    rcases relativeComponent absolute member with rfl | inside
    · exact ⟨['.'], rfl⟩
    · exact inner c inside

theorem encodedOf {cs : List Component} (each : ∀ c ∈ cs, Encoded c.bytes) :
    Encoded (ofComponents cs).bytes := by
  unfold ofComponents
  split
  · exact Text.encodedSlash
  · apply Text.encodedIntercalate
    intro l member
    obtain ⟨c, inside, rfl⟩ := List.mem_map.mp member
    exact each c inside

theorem encodedNormalize {p : Path} (encoded : Encoded p.bytes) : Encoded p.normalize.bytes :=
  encodedOf fun _ member => encodedComponents encoded (foldComponentsMember member).1

theorem encodedParent {p base : Path} (encoded : Encoded p.bytes) (parent : p.parent? = some base) :
    Encoded base.bytes := by
  unfold parent? at parent
  split at parent
  · contradiction
  · contradiction
  · rw [← Option.some.inj parent]
    exact encodedOf fun _ member => encodedComponents encoded ((List.dropLast_sublist _).mem member)

theorem encodedJoin {base p : Path} (left : Encoded base.bytes) (right : Encoded p.bytes) :
    Encoded (base.join p).bytes := by
  unfold join
  split
  · exact right
  · split
    · exact right
    · split
      · exact Text.encodedAppend left right
      · exact Text.encodedAppend left (Text.encodedAppend Text.encodedSlash right)

theorem encodedExtension {p : Path} (encoded : Encoded p.bytes) (bare : p.extension? = none)
    {extension : List UInt8} (text : Encoded extension) (filled : extension ≠ []) :
    Encoded (p.withExtension extension).bytes := by
  rcases withExtensionCases bare filled with same | ⟨cs, n, components, longer⟩
  · rw [same]
    exact encoded
  · have each : ∀ c ∈ cs ++ [.name n], Encoded c.bytes := fun c member =>
      encodedComponents encoded (components ▸ member)
    have name : Encoded n := each (.name n) (by simp)
    have dotted : Encoded (n ++ dot :: extension) :=
      Text.encodedAppend name (Text.encodedAppend ⟨['.'], rfl⟩ text)
    rw [longer]
    apply encodedOf
    intro c member
    rcases List.mem_append.mp member with front | last
    · exact each c (List.mem_append_left _ front)
    · rw [List.mem_singleton.mp last]
      exact dotted

def IsTidy (p : Path) : Prop :=
  p.IsCanonical ∨ ∃ cs, (∀ c ∈ cs, c.Solid) ∧ p = ofComponents cs

theorem normalizeTidy (p : Path) : p.normalize.IsTidy := by
  cases absolute : p.isAbsolute with
  | true => exact .inl (normalizeCanonical absolute)
  | false => exact .inr (normalizeRelative absolute)

theorem tidyCanonical {p : Path} (tidy : p.IsTidy) (absolute : p.isAbsolute = true) : p.IsCanonical := by
  rcases tidy with canonical | ⟨cs, solid, rfl⟩
  · exact canonical
  · rw [looseRelative solid] at absolute
    contradiction

theorem extensionTidy {p : Path} (tidy : p.IsTidy) (bare : p.extension? = none) {extension : String}
    (filled : extension ≠ "") (plain : '/' ∉ extension.toList) :
    (p.withExtension (Text.bytes extension.toList)).IsTidy := by
  by_cases same : p.withExtension (Text.bytes extension.toList) = p
  · rw [same]
    exact tidy
  rcases tidy with canonical | ⟨cs, solid, rfl⟩
  · exact .inl (Sourcing.withExtensionExtended canonical bare filled plain same).1
  · rcases withExtensionCases bare (Sourcing.extensionBytes filled) with kept | ⟨front, n, parts, longer⟩
    · exact absurd kept same
    · rw [looseComponents solid] at parts
      subst parts
      refine .inr ⟨_, ?_, longer⟩
      intro c member
      rcases List.mem_append.mp member with before | last
      · exact solid c (List.mem_append_left _ before)
      · rw [List.mem_singleton.mp last]
        exact Sourcing.extendedName (solid (.name n) (by simp)) fun byte => plain (Text.slashChar byte)

/- No path in this form has two slashes in a row, so none reads as a file URI. -/
theorem tidyPlain {p : Path} (tidy : p.IsTidy) : ¬ Text.bytes "file://".toList <+: p.bytes := by
  rintro ⟨rest, whole⟩
  rcases tidy with canonical | ⟨cs, solid, rfl⟩
  · have letter : (Text.bytes "file://".toList ++ rest).head? = some 0x66 := rfl
    have first := canonical.1
    rw [isAbsolute, ← whole, letter] at first
    exact absurd first (by decide)
  · by_cases filled : cs = []
    · subst filled
      contradiction
    · have parts : (Text.bytes "file://".toList ++ rest).splitOn slash =
          Text.bytes "file:".toList :: [] :: rest.splitOn slash := by
        have first := List.splitOn_append_cons_self (a := slash) (Text.bytes "file:".toList) (slash :: rest)
        rw [List.splitOn_cons_eq_if_modifyHead, if_pos (by decide)] at first
        exact first
      have empty : [] ∈ cs.map Component.bytes := by
        rw [← looseSegments solid filled, segments, ← whole, parts]
        simp
      obtain ⟨c, member, silent⟩ := List.mem_map.mp empty
      exact (bytesPlain (solid c member)).2 silent

end Path

namespace FileSystem
open ShellAtlas.Path (slash)

theorem trailSteps {fs : FileSystem} {p : Path} {t : Trail} (ok : fs.trail p = .ok t) :
    ∃ start, p.segments.foldlM follow start = .ok t := by
  simp only [trail] at ok
  split at ok
  · contradiction
  · split at ok
    · contradiction
    · simp only [bind, Except.bind] at ok
      split at ok
      · exact ⟨_, ok⟩
      · split at ok
        · contradiction
        · exact ⟨_, ok⟩

theorem closedNoFile (fs : FileSystem) (bs : List UInt8) : fs.isFile ⟨bs ++ [slash]⟩ = false := by
  rw [Bool.eq_false_iff]
  intro file
  obtain ⟨t, ok⟩ := fileTrail file
  obtain ⟨start, steps⟩ := trailSteps ok
  have parts : (Path.mk (bs ++ [slash])).segments = (Path.mk bs).segments ++ [[]] :=
    List.splitOn_append_cons_self bs []
  rw [parts, List.foldlM_append] at steps
  cases before : (Path.mk bs).segments.foldlM follow start with
  | error e => simp [before, bind, Except.bind] at steps
  | ok middle =>
    simp only [before, bind, Except.bind, List.foldlM_cons, List.foldlM_nil] at steps
    obtain _ | ⟨⟨name, here⟩, above⟩ := middle
    · simp [follow] at steps
    · cases here with
      | file content => simp [follow] at steps
      | directory entries =>
        simp [follow, pure, Except.pure] at steps
        subst steps
        simp [isFile, node, ok, bind, Except.bind, FileNode.isFile] at file

end FileSystem

namespace FileUri

def EndsInDrive (bs : List UInt8) : Prop :=
  ∃ front letter mark, bs = front ++ [letter, mark] ∧ front ≠ [] ∧
    (Char.ofNat letter.toNat).isAlpha = true ∧ letter < 0x80 ∧ (mark = 0x3A ∨ mark = 0x7C)

theorem closeDriveEnds (bs : List UInt8) :
    closeDrive bs = bs ∨ EndsInDrive bs ∧ closeDrive bs = bs ++ [Path.slash] := by
  unfold closeDrive
  split
  · rename_i mark letter last front back
    split
    · rename_i drive
      simp only [Bool.and_eq_true, Bool.or_eq_true, decide_eq_true_eq] at drive
      refine .inr ⟨⟨(last :: front).reverse, letter, mark, ?_, by simp, drive.1.2, drive.2, drive.1.1⟩, rfl⟩
      rw [← List.reverse_inj, back]
      simp
    · exact .inl rfl
  · exact .inl rfl

theorem walkAbsolute (w : Walk) : w.path.isAbsolute = true := by
  apply closeDriveAbsolute
  have leading : Text.bytes (spell w.done.reverse) =
      Path.slash :: Text.bytes (['/'].intercalate (w.done.reverse.dropWhile (· = []))) := rfl
  rw [leading, unescapePlain (by decide)]
  rfl

theorem readHostAbsolute {ls : List Letter} {p : Path} (read : readHost? ls = some p) :
    p.isAbsolute = true := by
  have walked : ∀ w : Walk, some w.path = some p → p.isAbsolute = true := fun w same =>
    Option.some.inj same ▸ walkAbsolute w
  unfold readHost? at read
  simp only at read
  split at read
  · exact walked _ read
  · split at read
    · exact walked _ read
    · split at read
      · contradiction
      · split at read
        · exact walked _ read
        · split at read
          · exact walked _ read
          · contradiction

theorem toPathAbsolute {uri : String} {p : Path} (read : toPath? uri = some p) : p.isAbsolute = true := by
  obtain ⟨ls, _, read⟩ := Option.bind_eq_some_iff.mp read
  split at read
  · split at read
    · exact readHostAbsolute read
    · exact Option.some.inj read ▸ walkAbsolute _
  · exact Option.some.inj read ▸ walkAbsolute _

end FileUri

namespace Sourcing
open ShellAtlas.Path (slash)
open ShellAtlas.Text (Encoded)

def isFileUri (u : String) : Bool :=
  "file://".toList.isPrefixOf u.toList

def readBack? (u : String) : Option Path :=
  if isFileUri u then FileUri.toPath? u else some (.ofText u)

inductive Named (t : Path) (u : String) : Prop where
  | uri (canonical : t.IsCanonical) (same : u = t.uri)
  | text (same : t = .ofText u) (plain : isFileUri u = false)

theorem fileUriIff {cs : List Char} : isFileUri (String.ofList cs) = true ↔ "file://".toList <+: cs := by
  have text : (String.ofList cs).toList = cs := String.toList_ofList
  rw [isFileUri, List.isPrefixOf_iff_prefix, text]

theorem uriWritten {t : Path} (absolute : t.isAbsolute = true) : isFileUri t.uri = true := by
  rw [FileUri.uriText absolute, fileUriIff]
  exact ⟨'/' :: ['/'].intercalate (t.inner.map fun c => FileUri.escape c.bytes), rfl⟩

theorem namedOnce {s t : Path} {u : String} (left : Named s u) (right : Named t u) : s = t := by
  cases left with
  | uri canonical same =>
    cases right with
    | uri other name => exact FileUri.uriInjective canonical other (same.symm.trans name)
    | text _ plain =>
      rw [same, uriWritten canonical.1] at plain
      contradiction
  | text same plain =>
    cases right with
    | uri other name =>
      rw [name, uriWritten other.1] at plain
      contradiction
    | text again _ => rw [same, again]

theorem namedReadBack {t : Path} {u : String} (named : Named t u) :
    readBack? u = some t ∨
      isFileUri u = true ∧ FileUri.EndsInDrive t.bytes ∧ readBack? u = some ⟨t.bytes ++ [slash]⟩ := by
  cases named with
  | uri canonical same =>
    have written : isFileUri u = true := same ▸ uriWritten canonical.1
    have read : readBack? u = some ⟨FileUri.closeDrive t.bytes⟩ := by
      rw [readBack?, if_pos written, same, FileUri.toPathCanonical canonical]
    rcases FileUri.closeDriveEnds t.bytes with kept | ⟨drive, closed⟩
    · exact .inl (by rw [read, kept])
    · exact .inr ⟨written, drive, by rw [read, closed]⟩
  | text same plain =>
    left
    rw [readBack?, plain, same]
    rfl

theorem displayNamed {t : Path} (tidy : t.IsTidy) (encoded : Encoded t.bytes) : Named t t.display := by
  obtain ⟨cs, text⟩ := encoded
  have shown : t.display = String.ofList cs := by
    rw [Path.display, text, Text.displayBytes]
  refine .text ?_ ?_
  · rw [shown, Path.ofText, String.toList_ofList, ← text]
  · rw [Bool.eq_false_iff, shown]
    intro written
    obtain ⟨rest, whole⟩ := fileUriIff.mp written
    exact Path.tidyPlain tidy ⟨Text.bytes rest, by rw [text, ← whole, FileUri.bytesAppend]⟩

theorem renderNamed {uri : String} {t : Path} (tidy : t.IsTidy)
    (encoded : (declaring uri).2 = false ∨ t.isAbsolute = false → Encoded t.bytes) :
    Named t (render uri t) := by
  unfold render
  split
  · cases absolute : t.isAbsolute with
    | true => exact .uri (Path.tidyCanonical tidy absolute) rfl
    | false =>
      have shown : t.uri = t.display := by simp [Path.uri, FileUri.ofPath?, absolute]
      rw [shown]
      exact displayNamed tidy (encoded (.inr absolute))
  · rename_i plain
    exact displayNamed tidy (encoded (.inl (by simpa using plain)))

theorem ofTextEncoded (s : String) : Encoded (Path.ofText s).bytes :=
  ⟨s.toList, rfl⟩

theorem literalEncoded {raw uri : String}
    (shown : (declaring uri).2 = false ∨ (literal raw uri).isAbsolute = false) :
    Encoded (literal raw uri).bytes := by
  apply Path.encodedNormalize
  unfold literal at shown
  cases read : FileUri.toPath? uri with
  | none =>
    have plain : declaring uri = (.ofText uri, false) := by simp [declaring, read]
    rw [plain]
    cases parent : (Path.ofText uri).parent? with
    | none => exact Path.encodedJoin ⟨[], rfl⟩ (ofTextEncoded raw)
    | some base => exact Path.encodedJoin (Path.encodedParent (ofTextEncoded uri) parent) (ofTextEncoded raw)
  | some p =>
    have written : declaring uri = (p, true) := by simp [declaring, read]
    rw [written] at shown ⊢
    cases parent : p.parent? with
    | none => exact Path.encodedJoin ⟨[], rfl⟩ (ofTextEncoded raw)
    | some base =>
      have absolute := Path.parentAbsolute (FileUri.toPathAbsolute read) parent
      have normal := (Path.normalizeCanonical (Path.joinAbsolute (p := .ofText raw) absolute)).1
      simp only [parent, Option.getD_some, normal, reduceCtorEq, or_self] at shown

theorem extendedEncoded {raw uri : String} {extension : String} (filled : extension ≠ "")
    (bare : (literal raw uri).extension? = none)
    (shown : (declaring uri).2 = false ∨
      ((literal raw uri).withExtension (Text.bytes extension.toList)).isAbsolute = false) :
    Encoded ((literal raw uri).withExtension (Text.bytes extension.toList)).bytes := by
  have plain : (declaring uri).2 = false ∨ (literal raw uri).isAbsolute = false := by
    refine shown.imp_right fun relative => ?_
    rw [Bool.eq_false_iff] at relative ⊢
    exact fun absolute => relative (Path.withExtensionAbsolute absolute _)
  exact Path.encodedExtension (literalEncoded plain) bare ⟨_, rfl⟩ (extensionBytes filled)

theorem resolveNamed (fs : FileSystem) {extension : String} (plain : '/' ∉ extension.toList)
    (raw uri : String) :
    ∃ t, Named t (resolve fs extension raw uri).uri ∧
      (resolve fs extension raw uri).isResolved = fs.isFile t := by
  have tidy : (literal raw uri).IsTidy := Path.normalizeTidy _
  have named := renderNamed tidy literalEncoded
  simp only [resolve]
  split
  · rename_i file
    exact ⟨_, named, file.symm⟩
  · rename_i missing
    split
    · rename_i longer
      simp only [Bool.and_eq_true, Option.isNone_iff_eq_none, decide_eq_true_eq] at longer
      obtain ⟨⟨bare, filled⟩, file⟩ := longer
      exact ⟨_, renderNamed (Path.extensionTidy tidy bare filled plain) (extendedEncoded filled bare), file.symm⟩
    · exact ⟨_, named, by simpa [Target.isResolved] using missing⟩

theorem resolvedNamed {fs : FileSystem} {extension raw uri u : String} (plain : '/' ∉ extension.toList)
    (resolved : resolve fs extension raw uri = .resolved u) : ∃ t, Named t u ∧ fs.isFile t = true := by
  obtain ⟨t, named, file⟩ := resolveNamed fs plain raw uri
  rw [resolved] at named file
  exact ⟨t, named, file.symm⟩

theorem unresolvedNamed {fs : FileSystem} {extension raw uri u : String} (plain : '/' ∉ extension.toList)
    (unresolved : resolve fs extension raw uri = .unresolved u) : ∃ t, Named t u ∧ fs.isFile t = false := by
  obtain ⟨t, named, missing⟩ := resolveNamed fs plain raw uri
  rw [unresolved] at named missing
  exact ⟨t, named, missing.symm⟩

/- No two targets disagree on a name, whatever sources them and from where. The name of a resolved one
reads back as the file, or as the file with a slash behind it where its path ends like a drive; that
of an unresolved one never reads back as a file. -/
theorem resolutionCoherent (fs : FileSystem) {extension : String} (plain : '/' ∉ extension.toList) :
    (∀ raw uri raw' uri' u : String, resolve fs extension raw uri = .resolved u →
      resolve fs extension raw' uri' ≠ .unresolved u) ∧
    (∀ raw uri u : String, resolve fs extension raw uri = .resolved u →
      ∃ t, fs.isFile t = true ∧
        (readBack? u = some t ∨
          isFileUri u = true ∧ FileUri.EndsInDrive t.bytes ∧ readBack? u = some ⟨t.bytes ++ [slash]⟩)) ∧
    ∀ raw uri u : String, resolve fs extension raw uri = .unresolved u →
      ∃ t, readBack? u = some t ∧ fs.isFile t = false := by
  refine ⟨?_, ?_, ?_⟩
  · intro raw uri raw' uri' u resolved unresolved
    obtain ⟨s, left, file⟩ := resolvedNamed plain resolved
    obtain ⟨t, right, missing⟩ := unresolvedNamed plain unresolved
    rw [namedOnce left right, missing] at file
    contradiction
  · intro raw uri u resolved
    obtain ⟨t, named, file⟩ := resolvedNamed plain resolved
    exact ⟨t, file, namedReadBack named⟩
  · intro raw uri u unresolved
    obtain ⟨t, named, missing⟩ := unresolvedNamed plain unresolved
    rcases namedReadBack named with read | ⟨_, _, read⟩
    · exact ⟨t, read, missing⟩
    · exact ⟨_, read, fs.closedNoFile t.bytes⟩

def drives : FileSystem :=
  ⟨.directory [(Text.bytes ['w'], .directory [(Text.bytes "lib:".toList, .file []),
    (Text.bytes "b.sh".toList, .file [])])], [Text.bytes ['w']], fun _ => 4096⟩

theorem drivesCoherent :
    '/' ∉ "sh".toList ∧
    (resolve drives "sh" "b" "file:///w/a.sh" = .resolved "file:///w/b.sh" ∧
      ∀ raw uri, resolve drives "sh" raw uri ≠ .unresolved "file:///w/b.sh") ∧
    (resolve drives "sh" "./b" "a.sh" = .resolved "b.sh" ∧
      ∃ t, drives.isFile t = true ∧ readBack? "b.sh" = some t) ∧
    (resolve drives "sh" "c" "file:///w/a.sh" = .unresolved "file:///w/c" ∧
      ∃ t, readBack? "file:///w/c" = some t ∧ drives.isFile t = false) := by
  have plain : '/' ∉ "sh".toList := by decide
  have byUri : resolve drives "sh" "b" "file:///w/a.sh" = .resolved "file:///w/b.sh" := by
    decide +kernel
  have byText : resolve drives "sh" "./b" "a.sh" = .resolved "b.sh" := by decide +kernel
  have missing : resolve drives "sh" "c" "file:///w/a.sh" = .unresolved "file:///w/c" := by
    decide +kernel
  obtain ⟨agree, resolved, unresolved⟩ := resolutionCoherent drives plain
  refine ⟨plain, ⟨byUri, fun raw uri => agree _ _ raw uri _ byUri⟩, ⟨byText, ?_⟩,
    missing, unresolved _ _ _ missing⟩
  obtain ⟨t, file, read | ⟨written, _⟩⟩ := resolved _ _ _ byText
  · exact ⟨t, file, read⟩
  · exact absurd written (by decide)

theorem driveReadClosed :
    '/' ∉ "sh".toList ∧
    resolve drives "sh" "lib:" "file:///w/a.sh" = .resolved "file:///w/lib:" ∧
    ¬ ∃ t, readBack? "file:///w/lib:" = some t ∧ drives.isFile t = true := by
  have read : readBack? "file:///w/lib:" = some (.ofText "/w/lib:/") := by
    decide +kernel
  refine ⟨by decide, by decide +kernel, ?_⟩
  rintro ⟨t, same, file⟩
  cases Option.some.inj (read.symm.trans same)
  exact absurd file (by decide +kernel)

end Sourcing

end ShellAtlas
