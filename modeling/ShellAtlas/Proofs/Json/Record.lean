import ShellAtlas.Command.Run
import ShellAtlas.Proofs.Json.Printed
import ShellAtlas.Snapshot
/-!
The index's values read back from JSON. A record may come with its fields in any order and with members
of other names among them, on every level, and its text may have any blanks and escapes: it is read as
the value that it was written for. What a run prints is a special case.
-/
namespace ShellAtlas

namespace Json

theorem leadingDigit {n : Nat} (positive : 0 < n) : ∃ d ds, Nat.toDigits 10 n = d :: ds ∧ d ≠ '0' := by
  induction n using Nat.strongRecOn with
  | ind n ih =>
    by_cases small : n < 10
    · have all : ∀ n < 10, 0 < n → n.digitChar ≠ '0' := by decide
      exact ⟨_, [], Nat.toDigits_of_lt_base small, all n small positive⟩
    · obtain ⟨d, ds, digits, first⟩ := ih (n / 10) (by omega) (by omega)
      refine ⟨d, ds ++ [(n % 10).digitChar], ?_, first⟩
      rw [Nat.toDigits_of_base_le (by decide) (by omega), digits, List.cons_append]

theorem natWhole (n : Nat) : Whole (Nat.toDigits 10 n) := by
  have all : ∀ c ∈ Nat.toDigits 10 n, c.isDigit = true := fun c member =>
    Nat.isDigit_of_mem_toDigits (by decide) (by decide) member
  rcases Nat.eq_zero_or_pos n with rfl | positive
  · exact .zero
  · obtain ⟨d, ds, digits, first⟩ := leadingDigit positive
    rw [digits] at all ⊢
    exact .leading (all d (by simp)) first fun c member => all c (by simp [member])

theorem natPlain (n : Nat) : Plain (.nat n) := by
  have numeral := Numeral.plain (natWhole n) .absent .absent
  rw [List.append_nil, List.append_nil] at numeral
  exact .number numeral

theorem natRead {n : Nat} (small : n < UInt32.size) : (Json.nat n).nat32? = some n := by
  have value : decimal (Nat.toDigits 10 n) = n := by
    have folded := Nat.ofDigitChars_toDigits (b := 10) (n := n) (by decide) (by decide)
    simpa [Nat.ofDigitChars, decimal, Nat.mul_comm] using folded
  have digits : (Nat.toDigits 10 n).all Char.isDigit = true := by
    simpa using (wholeDigits (natWhole n)).2
  simp [nat32?, nat, value, digits, small]

def Carries (names : List String) (fields : List (String × Json)) (v : Json) : Prop :=
  ∃ others members, (∀ o ∈ others, o.1 ∉ names) ∧ members.Perm (fields ++ others) ∧
    v = .record members

theorem carriesOwn (names : List String) (fields : List (String × Json)) :
    Carries names fields (.record fields) :=
  ⟨[], fields, by simp, by simp, rfl⟩

theorem lookupFilter {fields : List (String × Json)} (once : (fields.map (·.1)).Nodup) (n : String) :
    fields.filter (·.1 = n) = ((fields.lookup n).map fun v => (n, v)).toList := by
  induction fields with
  | nil => rfl
  | cons m fields ih =>
    obtain ⟨k, v⟩ := m
    rw [List.map_cons, List.nodup_cons] at once
    by_cases same : n = k
    · subst same
      have rest : fields.filter (·.1 = n) = [] := by
        rw [List.filter_eq_nil_iff]
        intro x member key
        exact once.1 (List.mem_map.mpr ⟨x, member, by simpa using key⟩)
      simp [rest]
    · have other : ¬ k = n := fun key => same key.symm
      rw [List.lookup_cons, beq_false_of_ne same]
      simp [other, ih once.2]

theorem mapRead {α β : Type} {f : α → Option β} {g : α → β} {xs : List α}
    (each : ∀ x ∈ xs, f x = some (g x)) : xs.mapM f = some (xs.map g) := by
  induction xs with
  | nil => rfl
  | cons x xs ih =>
    have rest := ih fun y member => each y (by simp [member])
    simp [List.mapM_cons, each x (by simp), rest]

theorem fieldsRead {names : List String} {fields : List (String × Json)} {v : Json}
    (once : (fields.map (·.1)).Nodup) (carries : Carries names fields v) :
    v.fields? names = some (names.map (fields.lookup ·)) := by
  obtain ⟨others, members, foreign, order, rfl⟩ := carries
  have found : ∀ n ∈ names, members.filter (·.1 = n) =
      ((fields.lookup n).map fun v => (n, v)).toList := by
    intro n named
    have rest : others.filter (·.1 = n) = [] := by
      rw [List.filter_eq_nil_iff]
      intro o member key
      exact foreign o member ((of_decide_eq_true key) ▸ named)
    have same := order.filter (·.1 = n)
    rw [List.filter_append, rest, List.append_nil, lookupFilter once] at same
    cases value : fields.lookup n with
    | none => simpa [value] using same
    | some v => simpa [value] using same
  have keyed : ((members.map fun m => (some m.1, m.2)).any (·.1.isNone)) = false := by simp
  rw [record, fields?, keyed, if_neg (by simp)]
  refine mapRead fun n named => ?_
  have filtered : (members.map fun m => (some m.1, m.2)).filter (·.1 = some n) =
      (members.filter (·.1 = n)).map fun m => (some m.1, m.2) := by
    simp [List.filter_map, Function.comp_def]
  rw [filtered, found n named]
  cases fields.lookup n <;> rfl

def decode? {α : Type} (ofJson? : Json → Option α) (cs : List Char) : Option α :=
  (parse? cs).bind ofJson?

def listOf? {α : Type} (ofJson? : Json → Option α) (v : Json) : Option (List α) :=
  (Snapshot.items? v).bind (·.mapM ofJson?)

structure ReadsBack {α : Type} (fits : α → Prop) (toJson : α → Json) (ofJson? : Json → Option α)
    (shown : α → Json → Prop) : Prop where
  own : ∀ x, shown x (toJson x)
  compact : ∀ x, fits x → decode? ofJson? (render (toJson x)).toList = some x
  printed : ∀ line xs after, (∀ x ∈ xs, fits x) → Blank after →
    decode? (listOf? ofJson?) ((Command.renderList .json toJson line xs).toList ++ after) = some xs
  every : ∀ x v cs, fits x → shown x v → Written v cs → decode? ofJson? cs = some x

theorem readsBack {α : Type} {fits : α → Prop} {toJson : α → Json} {ofJson? : Json → Option α}
    {shown : α → Json → Prop} (plain : ∀ x, Plain (toJson x)) (own : ∀ x, shown x (toJson x))
    (read : ∀ {x v}, fits x → shown x v → ofJson? v = some x) :
    ReadsBack fits toJson ofJson? shown := by
  have decoded : ∀ {x v cs}, fits x → shown x v → Written v cs → decode? ofJson? cs = some x := by
    intro x v cs small shown written
    rw [decode?, writtenRead written, Option.bind_some, read small shown]
  refine ⟨own, fun x small => ?_, fun line xs after small blank => ?_, fun _ _ _ => decoded⟩
  · have written : Written (toJson x) (Json.compact (toJson x)) :=
      ⟨[], _, [], blankNone, compactSpelled (plain x), blankNone, by simp⟩
    rw [render, String.toList_ofList]
    exact decoded small (own x) written
  · have items : Plain (.array (xs.map toJson)) := by
      refine .array fun v member => ?_
      obtain ⟨x, _, rfl⟩ := List.mem_map.mp member
      exact plain x
    have written : Written (.array (xs.map toJson)) (pretty 0 (.array (xs.map toJson)) ++ after) :=
      ⟨[], _, after, blankNone, prettySpelled items 0, blank, rfl⟩
    rw [Command.renderList, renderPretty, String.toList_ofList, decode?, writtenRead written,
      Option.bind_some, listOf?, Snapshot.items?, Option.bind_some, List.mapM_map]
    have each := mapRead (f := ofJson? ∘ toJson) (g := id) fun x member => read (small x member) (own x)
    rw [each, List.map_id]

end Json

open Json

namespace Position

def Fits (p : Position) : Prop :=
  p.line < UInt32.size ∧ p.character < UInt32.size

def Shown (p : Position) (v : Json) : Prop :=
  Carries ["line", "character"] [("line", .nat p.line), ("character", .nat p.character)] v

theorem shownRead {p : Position} {v : Json} (fits : p.Fits) (shown : p.Shown v) : ofJson? v = some p := by
  rw [ofJson?, fieldsRead (by simp) shown]
  simp [List.lookup_cons, natRead fits.1, natRead fits.2]

theorem plain (p : Position) : Plain p.toJson :=
  .record (by simp [natPlain])

theorem shownOwn (p : Position) : p.Shown p.toJson :=
  carriesOwn _ _

end Position

namespace Range

def Fits (r : Range) : Prop :=
  r.start.Fits ∧ r.stop.Fits

def Shown (r : Range) (v : Json) : Prop :=
  ∃ a b, r.start.Shown a ∧ r.stop.Shown b ∧ Carries ["start", "end"] [("start", a), ("end", b)] v

theorem shownRead {r : Range} {v : Json} (fits : r.Fits) (shown : r.Shown v) : ofJson? v = some r := by
  obtain ⟨a, b, start, stop, carries⟩ := shown
  rw [ofJson?, fieldsRead (by simp) carries]
  simp [List.lookup_cons, Position.shownRead fits.1 start, Position.shownRead fits.2 stop]

theorem plain (r : Range) : Plain r.toJson :=
  .record (by simp [Position.plain])

theorem shownOwn (r : Range) : r.Shown r.toJson :=
  ⟨_, _, r.start.shownOwn, r.stop.shownOwn, carriesOwn _ _⟩

end Range

namespace Location

def Fits (l : Location) : Prop :=
  l.range.Fits

def Shown (l : Location) (v : Json) : Prop :=
  ∃ r, l.range.Shown r ∧ Carries ["uri", "range"] [("uri", .text l.uri), ("range", r)] v

theorem shownRead {l : Location} {v : Json} (fits : l.Fits) (shown : l.Shown v) : ofJson? v = some l := by
  obtain ⟨r, range, carries⟩ := shown
  rw [ofJson?, fieldsRead (by simp) carries]
  simp [List.lookup_cons, Range.shownRead fits range, Json.text, text?]

theorem plain (l : Location) : Plain l.toJson :=
  .record (by simp [Range.plain, Plain.text])

theorem shownOwn (l : Location) : l.Shown l.toJson :=
  ⟨_, l.range.shownOwn, carriesOwn _ _⟩

end Location

theorem SymbolKind.wordRead (k : SymbolKind) : SymbolKind.ofJson? k.toJson = some k := by
  cases k <;> rfl

theorem Severity.wordRead (s : Severity) : Severity.ofJson? s.toJson = some s := by
  cases s
  rfl

section Optional
variable (key : String) (t : Option String)

theorem Json.optionalPlain : ∀ m ∈ Json.optional key t, Plain m.2 := by
  cases t with
  | none => simp [Json.optional]
  | some s => simpa [Json.optional] using .text s

theorem Json.optionalRead : optionalText? ((Json.optional key t).lookup key) = some t := by
  cases t with
  | none => rfl
  | some s => simp [Json.optional, optionalText?, Json.text, text?]

theorem Json.optionalOnce {fields : List (String × Json)} (once : (fields.map (·.1) ++ [key]).Nodup) :
    ((fields ++ Json.optional key t).map (·.1)).Nodup := by
  cases t with
  | none => simpa [Json.optional] using (List.nodup_append.mp once).1
  | some s => simpa [Json.optional] using once

end Optional

namespace SymbolInformation

def Fits (s : SymbolInformation) : Prop :=
  s.location.Fits

def Shown (s : SymbolInformation) (v : Json) : Prop :=
  ∃ l, s.location.Shown l ∧ Carries ["name", "kind", "location", "container_name"]
    ([("name", .text s.name), ("kind", s.kind.toJson), ("location", l)] ++
      Json.optional "container_name" s.containerName) v

theorem shownRead {s : SymbolInformation} {v : Json} (fits : s.Fits) (shown : s.Shown v) :
    ofJson? v = some s := by
  obtain ⟨l, location, carries⟩ := shown
  rw [ofJson?, fieldsRead (optionalOnce _ _ (by simp)) carries]
  simp [List.lookup_cons, Json.text, text?, SymbolKind.wordRead, Location.shownRead fits location,
    optionalRead]

theorem plain (s : SymbolInformation) : Plain s.toJson := by
  refine .record ?_
  rw [List.forall_mem_append]
  exact ⟨by simp [Plain.text, SymbolKind.toJson, Location.plain], optionalPlain _ _⟩

theorem shownOwn (s : SymbolInformation) : s.Shown s.toJson :=
  ⟨_, s.location.shownOwn, carriesOwn _ _⟩

end SymbolInformation

namespace DeclaredSymbol

def Fits (s : DeclaredSymbol) : Prop :=
  s.range.Fits

def Shown (s : DeclaredSymbol) (v : Json) : Prop :=
  ∃ r, s.range.Shown r ∧ Carries ["name", "kind", "range", "uri", "container_name"]
    ([("name", .text s.name), ("kind", s.kind.toJson), ("range", r), ("uri", .text s.uri)] ++
      Json.optional "container_name" s.containerName) v

theorem shownRead {s : DeclaredSymbol} {v : Json} (fits : s.Fits) (shown : s.Shown v) :
    ofJson? v = some s := by
  obtain ⟨r, range, carries⟩ := shown
  rw [ofJson?, fieldsRead (optionalOnce _ _ (by simp)) carries]
  simp [List.lookup_cons, Json.text, text?, SymbolKind.wordRead, Range.shownRead fits range, optionalRead]

theorem plain (s : DeclaredSymbol) : Plain s.toJson := by
  refine .record ?_
  rw [List.forall_mem_append]
  exact ⟨by simp [Plain.text, SymbolKind.toJson, Range.plain], optionalPlain _ _⟩

theorem shownOwn (s : DeclaredSymbol) : s.Shown s.toJson :=
  ⟨_, s.range.shownOwn, carriesOwn _ _⟩

end DeclaredSymbol

namespace Diagnostic

def Fits (d : Diagnostic) : Prop :=
  d.range.Fits

def Shown (d : Diagnostic) (v : Json) : Prop :=
  ∃ r, d.range.Shown r ∧ Carries ["range", "severity", "message"]
    [("range", r), ("severity", d.severity.toJson), ("message", .text d.message)] v

theorem shownRead {d : Diagnostic} {v : Json} (fits : d.Fits) (shown : d.Shown v) :
    ofJson? v = some d := by
  obtain ⟨r, range, carries⟩ := shown
  rw [ofJson?, fieldsRead (by simp) carries]
  simp [List.lookup_cons, Json.text, text?, Severity.wordRead, Range.shownRead fits range]

theorem plain (d : Diagnostic) : Plain d.toJson :=
  .record (by simp [Plain.text, Severity.toJson, Range.plain])

theorem shownOwn (d : Diagnostic) : d.Shown d.toJson :=
  ⟨_, d.range.shownOwn, carriesOwn _ _⟩

end Diagnostic

namespace Target

def Shown (t : Target) (v : Json) : Prop :=
  Carries ["status", "uri"] [("status", .text t.status), ("uri", .text t.uri)] v

theorem shownRead {t : Target} {v : Json} (shown : t.Shown v) : ofJson? v = some t := by
  have word : ∀ w, statusWord? v w = w.word? := by
    obtain ⟨_, _, _, _, rfl⟩ := shown
    exact fun _ => rfl
  rw [ofJson?, fieldsRead (by simp) shown]
  cases t <;> simp [List.lookup_cons, word, Json.text, text?, word?, status, uri, ofStatus?]

theorem plain (t : Target) : Plain t.toJson :=
  .record (by simp [Plain.text])

theorem shownOwn (t : Target) : t.Shown t.toJson :=
  carriesOwn _ _

end Target

namespace Json

/- Every value of an answer, with numbers of 32 bits, is read back. The objects that show a value have
its fields in any order and, on each level, any members of other names; an absent container has no
member. -/
theorem answersReadBack :
    ReadsBack Position.Fits Position.toJson Position.ofJson? Position.Shown ∧
    ReadsBack Range.Fits Range.toJson Range.ofJson? Range.Shown ∧
    ReadsBack Location.Fits Location.toJson Location.ofJson? Location.Shown ∧
    ReadsBack SymbolInformation.Fits SymbolInformation.toJson SymbolInformation.ofJson?
      SymbolInformation.Shown ∧
    ReadsBack DeclaredSymbol.Fits DeclaredSymbol.toJson DeclaredSymbol.ofJson? DeclaredSymbol.Shown ∧
    ReadsBack Diagnostic.Fits Diagnostic.toJson Diagnostic.ofJson? Diagnostic.Shown ∧
    ReadsBack (fun _ => True) Target.toJson Target.ofJson? Target.Shown :=
  ⟨readsBack Position.plain Position.shownOwn Position.shownRead,
    readsBack Range.plain Range.shownOwn Range.shownRead,
    readsBack Location.plain Location.shownOwn Location.shownRead,
    readsBack SymbolInformation.plain SymbolInformation.shownOwn SymbolInformation.shownRead,
    readsBack DeclaredSymbol.plain DeclaredSymbol.shownOwn DeclaredSymbol.shownRead,
    readsBack Diagnostic.plain Diagnostic.shownOwn Diagnostic.shownRead,
    readsBack Target.plain Target.shownOwn fun _ => Target.shownRead⟩

def oddSymbol : SymbolInformation :=
  ⟨"a\"\\\x01😀", .function, ⟨"file:///é", ⟨⟨0, 4294967295⟩, ⟨1, 0⟩⟩⟩, none⟩

def oddFields : List (String × Json) :=
  [("name", .text oddSymbol.name), ("kind", oddSymbol.kind.toJson),
    ("location", oddSymbol.location.toJson)]

def oddOthers : List (String × Json) :=
  [("more", .array [.null, .bool true])]

def oddShown : Json :=
  .record (oddFields ++ oddOthers).reverse

theorem oddReadBack :
    decode? SymbolInformation.ofJson? (newline 1 ++ (pretty 2 oddShown ++ newline 0)) = some oddSymbol := by
  have fits : oddSymbol.Fits := ⟨⟨by decide, by decide⟩, ⟨by decide, by decide⟩⟩
  have shown : oddSymbol.Shown oddShown :=
    ⟨_, oddSymbol.location.shownOwn, oddOthers, _, by simp [oddOthers], List.reverse_perm _, rfl⟩
  have plain : Plain oddShown := by
    refine .record fun m member => ?_
    simp only [oddFields, oddOthers, List.mem_reverse, List.cons_append, List.nil_append, List.mem_cons,
      List.not_mem_nil, or_false] at member
    rcases member with rfl | rfl | rfl | rfl
    · exact .text _
    · exact .text _
    · exact oddSymbol.location.plain
    · exact .array (by simp [Plain.null, Plain.bool])
  have written : Written oddShown (newline 1 ++ (pretty 2 oddShown ++ newline 0)) :=
    ⟨_, _, _, blankNewline 1, prettySpelled plain 2, blankNewline 0, rfl⟩
  exact answersReadBack.2.2.2.1.every _ _ _ fits shown written

end Json

end ShellAtlas
