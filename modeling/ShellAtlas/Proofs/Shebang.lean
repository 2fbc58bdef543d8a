import ShellAtlas.Dialect
import ShellAtlas.Proofs.Comment
/-!
What a `#!` line calls for, told by its words. The line is read by trying what may follow each slash of its
first word, an `env` and each of its options; all these tries come to one reading. The first word without its
directories names the dialect itself, or it is `env` and the first later word that is no option names it.
-/
namespace ShellAtlas.Dialect
open ShellAtlas.Text (isBlank trimStart trimEnd)

def words (cs : List Char) : List (List Char) :=
  (cs.splitOnP isBlank).filter fun w => !w.isEmpty

def base (word : List Char) : List Char :=
  (word.reverse.takeWhile (· ≠ '/')).reverse

def isOption : List Char → Bool
  | '-' :: _ :: _ => true
  | _ => false

inductive CallsFor (d : Dialect) : List Char → Prop where
  | named {text tool : List Char} {rest : List (List Char)} (parts : words text = tool :: rest)
      (name : base tool = d.name.toList) : CallsFor d ('#' :: '!' :: text)
  | sought {text tool : List Char} {rest : List (List Char)} (parts : words text = tool :: rest)
      (env : base tool = "env".toList)
      (name : rest.find? (fun w => !isOption w) = some d.name.toList) : CallsFor d ('#' :: '!' :: text)

theorem nameInjective {d e : Dialect} (same : d.name.toList = e.name.toList) : d = e := by
  cases d <;> cases e <;> first | rfl | exact absurd same (by decide)

theorem callsForOnce {line : List Char} {d e : Dialect} (one : CallsFor d line) (other : CallsFor e line) :
    d = e := by
  have notEnv : ∀ f : Dialect, f.name.toList ≠ "env".toList := fun f => by cases f <;> decide
  cases one with
  | named parts name =>
    cases other with
    | named again also =>
      obtain ⟨rfl, _⟩ := List.cons.inj (parts.symm.trans again)
      exact nameInjective (name.symm.trans also)
    | sought again env _ =>
      obtain ⟨rfl, _⟩ := List.cons.inj (parts.symm.trans again)
      exact absurd (name.symm.trans env) (notEnv d)
  | sought parts env name =>
    cases other with
    | named again also =>
      obtain ⟨rfl, _⟩ := List.cons.inj (parts.symm.trans again)
      exact absurd (also.symm.trans env) (notEnv e)
    | sought again _ also =>
      obtain ⟨_, rfl⟩ := List.cons.inj (parts.symm.trans again)
      exact nameInjective (Option.some.inj (name.symm.trans also))

theorem wordsAround {b : Char} (blank : isBlank b = true) (xs ys : List Char) :
    words (xs ++ b :: ys) = words xs ++ words ys := by
  rw [words, List.splitOnP_append_cons xs ys blank, List.filter_append]
  rfl

theorem wordsUnder {b : Char} (blank : isBlank b = true) (cs : List Char) : words (b :: cs) = words cs :=
  wordsAround blank [] cs

theorem wordsSolid {w : List Char} (solid : ∀ c ∈ w, isBlank c = false) (filled : w ≠ []) : words w = [w] := by
  rw [words, List.splitOnP_eq_singleton solid, List.filter_cons_of_pos (by simpa using filled), List.filter_nil]

theorem wordsBlank {cs : List Char} (blank : ∀ c ∈ cs, isBlank c = true) : words cs = [] := by
  induction cs with
  | nil => rfl
  | cons c cs ih =>
    rw [List.forall_mem_cons] at blank
    rw [wordsUnder blank.1, ih blank.2]

theorem wordsBehind {right : List Char} (blank : ∀ c ∈ right, isBlank c = true) (cs : List Char) :
    words (cs ++ right) = words cs := by
  cases right with
  | nil => rw [List.append_nil]
  | cons b right =>
    rw [List.forall_mem_cons] at blank
    rw [wordsAround blank.1, wordsBlank blank.2, List.append_nil]

theorem wordsEnd (cs : List Char) : words (trimEnd cs) = words cs := by
  obtain ⟨right, whole, blank, _⟩ := Text.trimEndParts cs
  conv_rhs => rw [whole, wordsBehind blank]

theorem wordsStart (cs : List Char) : words (trimStart cs) = words cs := by
  induction cs with
  | nil => rfl
  | cons c cs ih =>
    rw [trimStart, List.dropWhile_cons]
    split
    · rename_i blank
      rw [wordsUnder blank]
      exact ih
    · rfl

def lead (cs : List Char) : List Char :=
  cs.takeWhile fun c => !isBlank c

def behind (cs : List Char) : List Char :=
  cs.dropWhile fun c => !isBlank c

theorem leadWhole (cs : List Char) : lead cs ++ behind cs = cs :=
  List.takeWhile_append_dropWhile

theorem leadSolid (cs : List Char) : ∀ c ∈ lead cs, isBlank c = false := by
  intro c member
  simpa using List.all_eq_true.mp List.all_takeWhile c member

theorem behindBlank {cs rest : List Char} {b : Char} (next : behind cs = b :: rest) : isBlank b = true := by
  have stopped := List.head?_dropWhile_not (fun c => !isBlank c) cs
  rw [behind] at next
  rw [next] at stopped
  simpa using stopped

theorem leadBehind {front : List Char} (solid : ∀ c ∈ front, isBlank c = false) (cs : List Char) :
    lead (front ++ cs) = front ++ lead cs :=
  List.takeWhile_append_of_pos (by simpa using solid)

theorem afterWordBehind {front : List Char} (solid : ∀ c ∈ front, isBlank c = false) (cs : List Char) :
    afterWord? (front ++ cs) = afterWord? cs := by
  have passed : (front ++ cs).dropWhile (fun c => !isBlank c) = cs.dropWhile fun c => !isBlank c :=
    List.dropWhile_append_of_pos (by simpa using solid)
  rw [afterWord?, afterWord?, passed]

theorem wordsLead {cs : List Char} (filled : lead cs ≠ []) : words cs = lead cs :: words (behind cs) := by
  have first := wordsSolid (leadSolid cs) filled
  cases rest : behind cs with
  | nil =>
    conv_lhs => rw [← leadWhole cs, rest, List.append_nil, first]
    rfl
  | cons b more =>
    have blank := behindBlank rest
    conv_lhs => rw [← leadWhole cs, rest, wordsAround blank, first]
    rw [wordsUnder blank]
    rfl

theorem wordsAfter (cs : List Char) : (afterWord? cs).elim [] words = words (behind cs) := by
  unfold afterWord? behind
  split
  · rename_i gone
    rw [gone]
    rfl
  · rename_i b rest gone
    rw [Option.elim_some, wordsStart, gone, wordsUnder (behindBlank gone)]

theorem afterIff {start cs rest : List Char} : after? start cs = some rest ↔ cs = start ++ rest := by
  induction start generalizing cs with
  | nil => simp [after?]
  | cons w start ih =>
    cases cs with
    | nil => simp [after?]
    | cons c cs =>
      rw [after?]
      split
      · rename_i same
        rw [ih, same, List.cons_append, List.cons_inj_right]
      · rename_i other
        simp [other]

theorem nameSolid (d : Dialect) : ∀ c ∈ d.name.toList, isBlank c = false := by
  have each : (d.name.toList.all fun c => !isBlank c) = true := by cases d <;> decide
  simpa using each

theorem namedLead (cs : List Char) : named? cs = all.find? fun d => decide (lead cs = d.name.toList) := by
  rw [named?]
  congr 1
  funext d
  cases read : after? d.name.toList cs with
  | none =>
    have other : lead cs ≠ d.name.toList := by
      intro same
      have whole := leadWhole cs
      rw [same, eq_comm, ← afterIff, read] at whole
      contradiction
    exact (decide_eq_false other).symm
  | some rest =>
    rw [afterIff.mp read, leadBehind (nameSolid d)]
    cases rest with
    | nil => simp [lead]
    | cons c rest => cases blank : isBlank c <;> simp [lead, blank]

theorem namedIff {cs : List Char} {d : Dialect} : named? cs = some d ↔ lead cs = d.name.toList := by
  rw [namedLead]
  constructor
  · intro found
    simpa using List.find?_some found
  · intro same
    rw [same]
    cases d <;> decide

theorem memAfterSlashes {cs place : List Char} : place ∈ afterSlashes cs ↔
    ∃ front, cs = front ++ '/' :: place ∧ ∀ c ∈ front, isBlank c = false := by
  have slash : isBlank '/' = false := by decide
  induction cs with
  | nil => simp [afterSlashes]
  | cons c cs ih =>
    have further : (∃ front, cs = front ++ '/' :: place ∧ ∀ c ∈ front, isBlank c = false) →
        isBlank c = false → ∃ front, c :: cs = front ++ '/' :: place ∧ ∀ c ∈ front, isBlank c = false := by
      rintro ⟨front, rfl, solid⟩ first
      exact ⟨c :: front, rfl, List.forall_mem_cons.mpr ⟨first, solid⟩⟩
    rw [afterSlashes]
    constructor
    · intro member
      split at member
      · contradiction
      · rename_i first
        rw [Bool.not_eq_true] at first
        split at member
        · rename_i here
          rcases List.mem_append.mp member with later | last
          · exact further (ih.mp later) first
          · exact ⟨[], by rw [here, List.mem_singleton.mp last]; rfl, by simp⟩
        · exact further (ih.mp member) first
    · rintro ⟨front, whole, solid⟩
      cases front with
      | nil =>
        obtain ⟨rfl, rfl⟩ := List.cons.inj whole
        rw [slash, if_neg Bool.false_ne_true, if_pos rfl]
        exact List.mem_append_right _ (List.mem_singleton_self _)
      | cons d front =>
        obtain ⟨rfl, rest⟩ := List.cons.inj whole
        rw [List.forall_mem_cons] at solid
        have later := ih.mpr ⟨front, rest, solid.2⟩
        rw [solid.1, if_neg Bool.false_ne_true]
        split
        · exact List.mem_append_left _ later
        · exact later

theorem memPlaces {cs place : List Char} : place ∈ afterSlashes cs ++ [cs] ↔
    ∃ front, cs = front ++ place ∧ (∀ c ∈ front, isBlank c = false) ∧ (front = [] ∨ front.getLast? = some '/') := by
  rw [List.mem_append, memAfterSlashes, List.mem_singleton]
  constructor
  · rintro (⟨front, rfl, solid⟩ | rfl)
    · refine ⟨front ++ ['/'], by simp, ?_, by simp⟩
      rw [List.forall_mem_append]
      exact ⟨solid, List.forall_mem_singleton.mpr (by decide)⟩
    · exact ⟨[], rfl, by simp, .inl rfl⟩
  · rintro ⟨front, rfl, solid, rfl | last⟩
    · exact .inr rfl
    · obtain ⟨before, rfl⟩ := List.getLast?_eq_some_iff.mp last
      rw [List.forall_mem_append] at solid
      exact .inl ⟨before, by simp, solid.1⟩

theorem baseIff {word rest : List Char} : base word = rest ↔
    ∃ front, word = front ++ rest ∧ '/' ∉ rest ∧ (front = [] ∨ front.getLast? = some '/') := by
  constructor
  · rintro rfl
    refine ⟨(word.reverse.dropWhile (· ≠ '/')).reverse, ?_, ?_, ?_⟩
    · rw [base, ← List.reverse_append, List.takeWhile_append_dropWhile, List.reverse_reverse]
    · intro inside
      have kept := List.all_eq_true.mp List.all_takeWhile '/' (List.mem_reverse.mp inside)
      simp at kept
    · rw [List.reverse_eq_nil_iff, List.getLast?_reverse]
      cases gone : word.reverse.dropWhile (· ≠ '/') with
      | nil => exact .inl rfl
      | cons c front =>
        have stopped := List.head?_dropWhile_not (· ≠ '/') word.reverse
        rw [gone] at stopped
        exact .inr (by simpa using stopped)
  · rintro ⟨front, rfl, plain, ends⟩
    have kept : ∀ c ∈ rest.reverse, decide (c ≠ '/') = true := by
      intro c member
      refine decide_eq_true fun same => plain ?_
      exact same ▸ List.mem_reverse.mp member
    have stopped : front.reverse.takeWhile (· ≠ '/') = [] := by
      rcases ends with rfl | last
      · rfl
      · obtain ⟨before, rfl⟩ := List.getLast?_eq_some_iff.mp last
        simp
    rw [base, List.reverse_append, List.takeWhile_append_of_pos kept, stopped, List.append_nil,
      List.reverse_reverse]

theorem optionLead {cs : List Char} : isOption (lead cs) = true ↔
    ∃ c rest, cs = '-' :: c :: rest ∧ isBlank c = false := by
  have hyphen : isBlank '-' = false := by decide
  constructor
  · intro option
    unfold isOption at option
    split at option
    · rename_i d more first
      refine ⟨d, more ++ behind cs, ?_, leadSolid cs d (by simp [first])⟩
      rw [← List.cons_append, ← List.cons_append, ← first, leadWhole]
    · contradiction
  · rintro ⟨c, rest, rfl, solid⟩
    simp [lead, hyphen, solid, isOption]

theorem afterOptionsSucc (n : Nat) (cs : List Char) :
    afterOptions (n + 1) cs =
      (if isOption (lead cs) then (afterWord? cs).elim [] (afterOptions n) else []) ++ [cs] := by
  split
  · rename_i option
    obtain ⟨c, rest, rfl, solid⟩ := optionLead.mp option
    have hyphen : isBlank '-' = false := by decide
    have passed : afterWord? ('-' :: c :: rest) = afterWord? (c :: rest) :=
      @afterWordBehind ['-'] (List.forall_mem_singleton.mpr hyphen) (c :: rest)
    rw [afterOptions, if_neg (by simp [solid]), passed]
    cases afterWord? (c :: rest) <;> rfl
  · rename_i other
    unfold afterOptions
    split
    · rename_i c rest
      have blank : isBlank c = true := by
        rw [← Bool.not_eq_false]
        exact fun solid => other (optionLead.mpr ⟨c, rest, rfl, solid⟩)
      rw [if_pos blank]
      rfl
    · rfl

theorem afterWordStart {cs next : List Char} (read : afterWord? cs = some next) :
    (∀ c ∈ next.head?, isBlank c = false) ∧ next.length < cs.length := by
  unfold afterWord? at read
  split at read
  · contradiction
  · rename_i b rest gone
    cases Option.some.inj read
    refine ⟨Text.headDropped rest, ?_⟩
    have shorter : (trimStart rest).length ≤ rest.length := (List.dropWhile_sublist _).length_le
    have whole : (cs.dropWhile fun c => !isBlank c).length ≤ cs.length := (List.dropWhile_sublist _).length_le
    rw [gone, List.length_cons] at whole
    omega

theorem leadFilled {cs : List Char} (solid : ∀ c ∈ cs.head?, isBlank c = false) (filled : words cs ≠ []) :
    lead cs ≠ [] := by
  cases cs with
  | nil => exact absurd rfl filled
  | cons c cs => simp [lead, solid c rfl]

theorem optionsPassed {n : Nat} {cs place : List Char} (solid : ∀ c ∈ cs.head?, isBlank c = false)
    (member : place ∈ afterOptions n cs) :
    ∃ options, (∀ o ∈ options, isOption o = true) ∧ words cs = options ++ words place := by
  induction n generalizing cs with
  | zero =>
    rw [List.mem_singleton.mp member]
    exact ⟨[], by simp, rfl⟩
  | succ n ih =>
    rw [afterOptionsSucc, List.mem_append, List.mem_singleton] at member
    rcases member with further | rfl
    · split at further
      · rename_i option
        cases read : afterWord? cs with
        | none => simp [read] at further
        | some next =>
          rw [read, Option.elim_some] at further
          obtain ⟨options, each, rest⟩ := ih (afterWordStart read).1 further
          have filled : lead cs ≠ [] := by
            intro empty
            simp [empty, isOption] at option
          refine ⟨lead cs :: options, List.forall_mem_cons.mpr ⟨option, each⟩, ?_⟩
          rw [wordsLead filled, ← wordsAfter, read, Option.elim_some, rest, List.cons_append]
      · simp at further
    · exact ⟨[], by simp, rfl⟩

theorem optionsFollowed {n : Nat} {cs : List Char} (room : cs.length ≤ n)
    (solid : ∀ c ∈ cs.head?, isBlank c = false) {options rest : List (List Char)} {word : List Char}
    (each : ∀ o ∈ options, isOption o = true) (parts : words cs = options ++ word :: rest) :
    ∃ place ∈ afterOptions n cs, lead place = word := by
  induction options generalizing n cs with
  | nil =>
    rw [wordsLead (leadFilled solid (by simp [parts]))] at parts
    refine ⟨cs, ?_, (List.cons.inj parts).1⟩
    cases n with
    | zero => exact List.mem_singleton_self cs
    | succ n =>
      rw [afterOptionsSucc]
      exact List.mem_append_right _ (List.mem_singleton_self cs)
  | cons o options ih =>
    rw [wordsLead (leadFilled solid (by simp [parts]))] at parts
    rw [List.forall_mem_cons] at each
    obtain ⟨first, later⟩ := List.cons.inj parts
    rw [← wordsAfter] at later
    cases read : afterWord? cs with
    | none => simp [read] at later
    | some next =>
      rw [read, Option.elim_some] at later
      obtain ⟨start, shorter⟩ := afterWordStart read
      obtain ⟨m, rfl⟩ : ∃ m, n = m + 1 := ⟨n - 1, by omega⟩
      obtain ⟨place, member, found⟩ := ih (n := m) (by omega) start each.2 later
      refine ⟨place, ?_, found⟩
      rw [afterOptionsSucc, first, if_pos each.1, read, Option.elim_some]
      exact List.mem_append_left _ member

theorem memAfterEnv {cs place : List Char} : place ∈ afterEnv cs ↔ place = cs ∨
    ∃ b rest, cs = "env".toList ++ b :: rest ∧ isBlank b = true ∧
      place ∈ afterOptions rest.length (trimStart rest) := by
  have text : "env".toList = ['e', 'n', 'v'] := rfl
  rw [text]
  unfold afterEnv
  split
  · rename_i b rest read
    rw [afterIff] at read
    split
    · rename_i blank
      rw [List.mem_append, List.mem_singleton, or_comm]
      refine or_congr_right ⟨fun member => ⟨b, rest, read, blank, member⟩, ?_⟩
      rintro ⟨c, more, again, _, member⟩
      obtain ⟨rfl, rfl⟩ := List.cons.inj (List.append_cancel_left (read.symm.trans again))
      exact member
    · rename_i solid
      rw [List.mem_singleton]
      refine ⟨.inl, fun given => given.resolve_right ?_⟩
      rintro ⟨c, more, again, blank, _⟩
      obtain ⟨rfl, _⟩ := List.cons.inj (List.append_cancel_left (read.symm.trans again))
      exact solid blank
  · rename_i other
    rw [List.mem_singleton]
    refine ⟨.inl, fun given => given.resolve_right ?_⟩
    rintro ⟨b, rest, whole, _, _⟩
    exact other b rest (afterIff.mpr whole)

theorem envSolid : ∀ c ∈ "env".toList, isBlank c = false := by
  have each : ("env".toList.all fun c => !isBlank c) = true := by decide
  simpa using each

theorem nameBare (d : Dialect) : d.name.toList ≠ [] ∧ '/' ∉ d.name.toList ∧ isOption d.name.toList = false := by
  cases d <;> decide

theorem triedCalls {text place : List Char} {d : Dialect}
    (member : place ∈ (afterSlashes (trimStart text) ++ [trimStart text]).flatMap afterEnv)
    (name : named? place = some d) : CallsFor d ('#' :: '!' :: text) := by
  rw [namedIff] at name
  obtain ⟨filled, plain, noOption⟩ := nameBare d
  have start : lead place ≠ [] := name.symm ▸ filled
  obtain ⟨spot, tried, further⟩ := List.mem_flatMap.mp member
  obtain ⟨front, whole, solid, ends⟩ := memPlaces.mp tried
  rcases memAfterEnv.mp further with rfl | ⟨b, rest, rfl, blank, behind⟩
  · have first : lead (trimStart text) = front ++ d.name.toList := by rw [whole, leadBehind solid, name]
    have parts := wordsLead (show lead (trimStart text) ≠ [] by simp [first, filled])
    rw [wordsStart, first] at parts
    exact .named parts (baseIff.mpr ⟨front, rfl, plain, ends⟩)
  · have tool : ∀ c ∈ front ++ "env".toList, isBlank c = false :=
      List.forall_mem_append.mpr ⟨solid, envSolid⟩
    have parts : words text = (front ++ "env".toList) :: words rest := by
      rw [← wordsStart, whole, ← List.append_assoc, wordsAround blank, wordsSolid tool (by simp)]
      rfl
    have begun : ∀ c ∈ (trimStart rest).head?, isBlank c = false := Text.headDropped rest
    obtain ⟨options, each, later⟩ := optionsPassed begun behind
    have skipped : options.find? (fun w => !isOption w) = none := by simpa using each
    refine .sought parts (baseIff.mpr ⟨front, rfl, by decide, ends⟩) ?_
    rw [← wordsStart, later, wordsLead start, name, List.find?_append, skipped, Option.none_or,
      List.find?_cons_of_pos (by simp [noOption])]

theorem firstWord {text tool rest : List Char} {more : List (List Char)} (parts : words text = tool :: more)
    (last : base tool = rest) :
    rest ++ behind (trimStart text) ∈ afterSlashes (trimStart text) ++ [trimStart text] ∧
      (∀ c ∈ rest, isBlank c = false) ∧ words (behind (trimStart text)) = more := by
  have begun : ∀ c ∈ (trimStart text).head?, isBlank c = false := Text.headDropped text
  have solid := leadSolid (trimStart text)
  have whole := leadWhole (trimStart text)
  rw [← wordsStart, wordsLead (leadFilled begun (by simp [parts]))] at parts
  obtain ⟨first, later⟩ := List.cons.inj parts
  obtain ⟨front, rfl, _, ends⟩ := baseIff.mp last
  rw [first, List.forall_mem_append] at solid
  rw [first, List.append_assoc] at whole
  exact ⟨memPlaces.mpr ⟨front, whole.symm, solid.1, ends⟩, solid.2, later⟩

theorem callsTried {text : List Char} {d : Dialect} (calls : CallsFor d ('#' :: '!' :: text)) :
    ∃ place ∈ (afterSlashes (trimStart text) ++ [trimStart text]).flatMap afterEnv, named? place = some d := by
  cases calls with
  | named parts name =>
    obtain ⟨tried, solid, _⟩ := firstWord parts name
    refine ⟨_, List.mem_flatMap.mpr ⟨_, tried, memAfterEnv.mpr (.inl rfl)⟩, namedIff.mpr ?_⟩
    rw [leadBehind solid]
    cases rest : behind (trimStart text) with
    | nil => simp [lead]
    | cons b more => simp [lead, behindBlank rest]
  | sought parts env name =>
    obtain ⟨tried, _, later⟩ := firstWord parts env
    obtain ⟨_, options, more, listed, skipped⟩ := List.find?_eq_some_iff_append.mp name
    have each : ∀ o ∈ options, isOption o = true := by simpa using skipped
    rw [listed] at later
    cases next : behind (trimStart text) with
    | nil => simp [next, words, List.splitOnP_nil] at later
    | cons b rest =>
      have blank := behindBlank next
      have begun : ∀ c ∈ (trimStart rest).head?, isBlank c = false := Text.headDropped rest
      rw [next, wordsUnder blank, ← wordsStart] at later
      rw [next] at tried
      obtain ⟨place, member, found⟩ :=
        optionsFollowed (List.dropWhile_sublist _).length_le begun each later
      exact ⟨place, List.mem_flatMap.mpr ⟨_, tried, memAfterEnv.mpr (.inr ⟨b, rest, rfl, blank, member⟩)⟩,
        namedIff.mpr found⟩

theorem trimEndMarked (text : List Char) : trimEnd ('#' :: '!' :: text) = '#' :: '!' :: trimEnd text := by
  obtain ⟨right, whole, blank, ends⟩ := Text.trimEndParts text
  have solid : ∀ c ∈ ('#' :: '!' :: trimEnd text).getLast?, isBlank c = false := by
    cases rest : trimEnd text with
    | nil =>
      intro c last
      cases Option.some.inj last
      decide
    | cons c cs =>
      rw [List.getLast?_cons_cons, List.getLast?_cons_cons, ← rest]
      exact ends
  conv_lhs => rw [whole]
  exact Text.trimEndAppend blank solid

theorem callsForEnd {text : List Char} {d : Dialect} :
    CallsFor d ('#' :: '!' :: trimEnd text) ↔ CallsFor d ('#' :: '!' :: text) := by
  constructor
  · rintro (⟨parts, name⟩ | ⟨parts, env, name⟩)
    · exact .named (wordsEnd text ▸ parts) name
    · exact .sought (wordsEnd text ▸ parts) env name
  · rintro (⟨parts, name⟩ | ⟨parts, env, name⟩)
    · exact .named ((wordsEnd text).trans parts) name
    · exact .sought ((wordsEnd text).trans parts) env name

theorem readMarked {line : List Char} {d : Dialect} (read : ofShebang? line = some d) :
    ∃ text, line = '#' :: '!' :: text := by
  obtain ⟨cs, marked, _⟩ := Option.bind_eq_some_iff.mp read
  obtain ⟨right, whole, _⟩ := Text.trimEndParts line
  rw [afterIff.mp marked] at whole
  exact ⟨cs ++ right, whole⟩

theorem ofShebangIff {line : List Char} {d : Dialect} : ofShebang? line = some d ↔ CallsFor d line := by
  have tries : ∀ text, ofShebang? ('#' :: '!' :: text) =
      ((afterSlashes (trimStart (trimEnd text)) ++ [trimStart (trimEnd text)]).flatMap afterEnv).findSome? named? :=
    fun text => by rw [ofShebang?, trimEndMarked]; rfl
  have sound : ∀ {text e}, ofShebang? ('#' :: '!' :: text) = some e → CallsFor e ('#' :: '!' :: text) := by
    intro text e read
    rw [tries] at read
    obtain ⟨place, member, name⟩ := List.exists_of_findSome?_eq_some read
    exact callsForEnd.mp (triedCalls member name)
  constructor
  · intro read
    obtain ⟨text, rfl⟩ := readMarked read
    exact sound read
  · intro calls
    obtain ⟨text, rfl⟩ : ∃ text, line = '#' :: '!' :: text := by cases calls <;> exact ⟨_, rfl⟩
    obtain ⟨place, member, name⟩ := callsTried (callsForEnd.mpr calls)
    cases read : ofShebang? ('#' :: '!' :: text) with
    | none =>
      rw [tries, List.findSome?_eq_none_iff] at read
      rw [read place member] at name
      contradiction
    | some e => rw [callsForOnce (sound read) calls]

theorem firstParts {content line : List Char} (first : Text.lineAt? content 0 = some line) :
    ∃ closing, content.takeWhile (· ≠ '\n') = line ++ closing ∧ ∀ c ∈ closing, isBlank c = true := by
  obtain ⟨raw, found, rfl⟩ := Option.map_eq_some_iff.mp first
  obtain ⟨before, after, row⟩ := Text.rowOf found
  have taken : content.takeWhile (· ≠ '\n') = raw := by
    have plain : ∀ c ∈ raw, decide (c ≠ '\n') = true := fun c member =>
      decide_eq_true fun same => row.plain (same ▸ member)
    have stopped : after.takeWhile (· ≠ '\n') = [] := by
      cases after with
      | nil => rfl
      | cons c after => simp [row.ended c rfl]
    rw [row.whole, Text.rowStart row, List.nil_append, List.takeWhile_append_of_pos plain, stopped,
      List.append_nil]
  rw [taken, Text.dropReturn]
  split
  · rename_i returned
    obtain ⟨front, rfl⟩ := List.getLast?_eq_some_iff.mp returned
    exact ⟨['\r'], by rw [List.dropLast_concat], List.forall_mem_singleton.mpr (by decide)⟩
  · exact ⟨[], (List.append_nil raw).symm, by simp⟩

theorem trimEndBlanks {closing : List Char} (blank : ∀ c ∈ closing, isBlank c = true) (cs : List Char) :
    trimEnd (cs ++ closing) = trimEnd cs := by
  obtain ⟨right, whole, more, ends⟩ := Text.trimEndParts cs
  conv_lhs => rw [whole, List.append_assoc]
  exact Text.trimEndAppend (List.forall_mem_append.mpr ⟨more, blank⟩) ends

theorem shebangFirst {content line : List Char} (first : Text.lineAt? content 0 = some line)
    (marked : ['#', '!'] <+: line) : shebang? content = some (trimEnd line) := by
  obtain ⟨closing, taken, blank⟩ := firstParts first
  obtain ⟨rest, rfl⟩ := marked
  have begun : after? ['#', '!'] (['#', '!'] ++ rest ++ closing) = some (rest ++ closing) :=
    afterIff.mpr (List.append_assoc ..)
  simp only [shebang?]
  rw [taken, begun, Option.isSome_some, if_pos rfl, trimEndBlanks blank]

/- A `#!` line calls for at most one dialect, and it is read as calling for just that. Where such a line comes
first, it decides alone what a file is, whatever the file is called. -/
theorem shebangDecides :
    (∀ line d, ofShebang? line = some d ↔ CallsFor d line) ∧
    (∀ line d e, CallsFor d line → CallsFor e line → d = e) ∧
    ∀ content line, Text.lineAt? content 0 = some line → ['#', '!'] <+: line → ∀ p,
      (∀ d, detect p content = .ok d ↔ CallsFor d line) ∧
      ((∀ d, ¬ CallsFor d line) → detect p content = .error (.foreign (trimEnd line))) := by
  refine ⟨fun line d => ofShebangIff, fun line d e => callsForOnce, ?_⟩
  intro content line first marked p
  have read : ∀ d, ofShebang? (trimEnd line) = some d ↔ CallsFor d line := by
    intro d
    obtain ⟨rest, rfl⟩ := marked
    rw [ofShebangIff]
    exact (trimEndMarked rest).symm ▸ callsForEnd
  simp only [detect, shebangFirst first marked]
  cases answer : ofShebang? (trimEnd line) with
  | none =>
    refine ⟨fun d => ?_, fun _ => rfl⟩
    rw [← read, answer]
    simp
  | some e =>
    have calls := (read e).mp answer
    refine ⟨fun d => ?_, fun none => absurd calls (none e)⟩
    rw [← read, answer]
    simp

theorem envDecides :
    CallsFor .zsh "#! /usr/bin/env -S zsh -f".toList ∧
    detect ⟨Text.bytes "tool.py".toList⟩ "#! /usr/bin/env -S zsh -f\r\nx=1\n".toList = .ok .zsh ∧
    detect ⟨Text.bytes "tool.sh".toList⟩ "#!/bin/python3 \nx=1\n".toList = .error (.foreign "#!/bin/python3".toList) := by
  have parts : words " /usr/bin/env -S zsh -f".toList =
      ["/usr/bin/env".toList, "-S".toList, "zsh".toList, "-f".toList] := by decide +kernel
  have calls : CallsFor .zsh "#! /usr/bin/env -S zsh -f".toList :=
    .sought parts (by decide +kernel) (by decide +kernel)
  have first : Text.lineAt? "#! /usr/bin/env -S zsh -f\r\nx=1\n".toList 0 =
      some "#! /usr/bin/env -S zsh -f".toList := by decide +kernel
  have other : Text.lineAt? "#!/bin/python3 \nx=1\n".toList 0 = some "#!/bin/python3 ".toList := by decide +kernel
  have foreign : ∀ d, ¬ CallsFor d "#!/bin/python3 ".toList := by
    intro d
    rw [← shebangDecides.1]
    cases d <;> decide +kernel
  exact ⟨calls, ((shebangDecides.2.2 _ _ first (by decide) _).1 .zsh).mpr calls,
    (shebangDecides.2.2 _ _ other (by decide) _).2 foreign⟩

end ShellAtlas.Dialect
