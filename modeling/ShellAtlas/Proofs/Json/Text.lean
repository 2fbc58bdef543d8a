import ShellAtlas.Json.Reader
/-!
JSON texts. A grammar says which texts a value has: blanks may stand between any two tokens, and a
character of a string may be written as itself or as an escape. The reader takes every text of a value
back to that value.
-/
namespace ShellAtlas.Json

def Digits (ds : List Char) : Prop :=
  ds ≠ [] ∧ ∀ c ∈ ds, c.isDigit = true

inductive Whole : List Char → Prop where
  | zero : Whole ['0']
  | leading {d : Char} {ds : List Char} (first : d.isDigit = true) (positive : d ≠ '0')
      (rest : ∀ c ∈ ds, c.isDigit = true) : Whole (d :: ds)

inductive Fraction : List Char → Prop where
  | absent : Fraction []
  | point {ds : List Char} (digits : Digits ds) : Fraction ('.' :: ds)

inductive Exponent : List Char → Prop where
  | absent : Exponent []
  | plain {e : Char} {ds : List Char} (letter : e = 'e' ∨ e = 'E') (digits : Digits ds) :
      Exponent (e :: ds)
  | signed {e s : Char} {ds : List Char} (letter : e = 'e' ∨ e = 'E') (sign : s = '+' ∨ s = '-')
      (digits : Digits ds) : Exponent (e :: s :: ds)

inductive Numeral : List Char → Prop where
  | plain {w f e : List Char} (whole : Whole w) (fraction : Fraction f) (exponent : Exponent e) :
      Numeral (w ++ (f ++ e))
  | minus {w f e : List Char} (whole : Whole w) (fraction : Fraction f) (exponent : Exponent e) :
      Numeral ('-' :: (w ++ (f ++ e)))

inductive Escape : Char → Char → Prop where
  | quote : Escape '"' '"'
  | backslash : Escape '\\' '\\'
  | slash : Escape '/' '/'
  | backspace : Escape 'b' '\x08'
  | feed : Escape 'f' '\x0c'
  | newline : Escape 'n' '\n'
  | carriage : Escape 'r' '\r'
  | tab : Escape 't' '\t'

inductive HexDigit : Nat → Char → Prop where
  | lower {n : Nat} (small : n < 16) : HexDigit n n.digitChar
  | upper {n : Nat} (small : n < 16) : HexDigit n n.digitChar.toUpper

inductive UnitEscape : Nat → List Char → Prop where
  | digits {m n k l : Nat} {a b c d : Char} (first : HexDigit m a) (second : HexDigit n b)
      (third : HexDigit k c) (fourth : HexDigit l d) :
      UnitEscape (((m * 16 + n) * 16 + k) * 16 + l) ['\\', 'u', a, b, c, d]

/- The text of a string between its quotes. A character beyond the first plane may be given by the
escapes of its two surrogates, and a surrogate alone stands for nothing. -/
inductive Content : List Char → List Char → Prop where
  | done : Content [] []
  | plain {c : Char} {cs w : List Char} (visible : 0x20 ≤ c.toNat) (bare : c ≠ '"') (free : c ≠ '\\')
      (more : Content cs w) : Content (c :: cs) (c :: w)
  | letter {e c : Char} {cs w : List Char} (escape : Escape e c) (more : Content cs w) :
      Content (c :: cs) ('\\' :: e :: w)
  | unit {n : Nat} {u cs w : List Char} (escape : UnitEscape n u) (scalar : n < 0xD800 ∨ 0xE000 ≤ n)
      (more : Content cs w) : Content (Char.ofNat n :: cs) (u ++ w)
  | pair {h l : Nat} {u v cs w : List Char} (high : UnitEscape (0xD800 + h) u) (first : h < 0x400)
      (low : UnitEscape (0xDC00 + l) v) (second : l < 0x400) (more : Content cs w) :
      Content (Char.ofNat (0x10000 + h * 0x400 + l) :: cs) (u ++ (v ++ w))

def Quoted (s : String) (w : List Char) : Prop :=
  ∃ body, Content s.toList body ∧ w = '"' :: (body ++ ['"'])

def Blank (cs : List Char) : Prop :=
  ∀ c ∈ cs, isSpace c = true

mutual

inductive Spelled : Json → List Char → Prop where
  | null : Spelled .null ['n', 'u', 'l', 'l']
  | yes : Spelled (.bool true) ['t', 'r', 'u', 'e']
  | no : Spelled (.bool false) ['f', 'a', 'l', 's', 'e']
  | number {ds : List Char} (numeral : Numeral ds) : Spelled (.number ds) ds
  | string {s : String} {w : List Char} (quoted : Quoted s w) : Spelled (.string (some s)) w
  | emptyArray {b : List Char} (blank : Blank b) : Spelled (.array []) ('[' :: (b ++ [']']))
  | array {items : List Json} {w : List Char} (body : ItemsSpelled items w) :
      Spelled (.array items) ('[' :: (w ++ [']']))
  | emptyObject {b : List Char} (blank : Blank b) :
      Spelled (.object []) ('\x7b' :: (b ++ ['\x7d']))
  | object {members : List (Option String × Json)} {w : List Char} (body : MembersSpelled members w) :
      Spelled (.object members) ('\x7b' :: (w ++ ['\x7d']))

inductive ItemsSpelled : List Json → List Char → Prop where
  | last {v : Json} {b w c : List Char} (before : Blank b) (value : Spelled v w) (after : Blank c) :
      ItemsSpelled [v] (b ++ (w ++ c))
  | more {v : Json} {vs : List Json} {b w c ws : List Char} (before : Blank b) (value : Spelled v w)
      (after : Blank c) (rest : ItemsSpelled vs ws) :
      ItemsSpelled (v :: vs) (b ++ (w ++ (c ++ ',' :: ws)))

inductive MembersSpelled : List (Option String × Json) → List Char → Prop where
  | last {k : String} {v : Json} {b q c d w e : List Char} (before : Blank b) (key : Quoted k q)
      (inner : Blank c) (outer : Blank d) (value : Spelled v w) (after : Blank e) :
      MembersSpelled [(some k, v)] (b ++ (q ++ (c ++ ':' :: (d ++ (w ++ e)))))
  | more {k : String} {v : Json} {ms : List (Option String × Json)} {b q c d w e ws : List Char}
      (before : Blank b) (key : Quoted k q) (inner : Blank c) (outer : Blank d) (value : Spelled v w)
      (after : Blank e) (rest : MembersSpelled ms ws) :
      MembersSpelled ((some k, v) :: ms) (b ++ (q ++ (c ++ ':' :: (d ++ (w ++ (e ++ ',' :: ws))))))

end

def Written (v : Json) (cs : List Char) : Prop :=
  ∃ b w c, Blank b ∧ Spelled v w ∧ Blank c ∧ cs = b ++ (w ++ c)

/-! Numbers. -/

theorem digitAtomic {c : Char} (digit : c.isDigit = true) : isAtomic c = true := by
  simp [isAtomic, Char.isAlphanum, digit]

theorem wholeDigits {w : List Char} (whole : Whole w) : Digits w := by
  cases whole with
  | zero => exact ⟨by simp, by simp⟩
  | leading first _ rest => exact ⟨by simp, by simpa using ⟨first, rest⟩⟩

theorem exponentRead {e : Char} {more : List Char} (exponent : Exponent (e :: more)) :
    (e = 'e' ∨ e = 'E') ∧ isExponent more = true := by
  cases exponent with
  | plain letter digits =>
    refine ⟨letter, ?_⟩
    obtain ⟨some, all⟩ := digits
    cases more with
    | nil => exact absurd rfl some
    | cons d ds =>
      have first := all d (by simp)
      unfold isExponent
      split <;> simp_all
  | signed letter sign digits =>
    rcases sign with rfl | rfl <;> exact ⟨letter, by simpa [isExponent, Digits] using digits⟩

theorem exponentStart {e : List Char} (exponent : Exponent e) : ∀ c ∈ e.head?, c.isDigit = false := by
  cases e with
  | nil => simp
  | cons c rest =>
    intro d head
    cases Option.mem_some.mp head
    rcases (exponentRead exponent).1 with rfl | rfl <;> decide

theorem tailStart {f e : List Char} (fraction : Fraction f) (exponent : Exponent e) :
    ∀ c ∈ (f ++ e).head?, c.isDigit = false := by
  cases fraction with
  | absent => exact exponentStart exponent
  | point digits => simp

theorem digitsSpan {ds rest : List Char} (all : ∀ c ∈ ds, c.isDigit = true)
    (ended : ∀ c ∈ rest.head?, c.isDigit = false) :
    (ds ++ rest).takeWhile Char.isDigit = ds ∧ (ds ++ rest).dropWhile Char.isDigit = rest := by
  rw [List.takeWhile_append_of_pos all, List.dropWhile_append_of_pos all]
  cases rest with
  | nil => simp
  | cons c rest => simp [ended c (by simp)]

theorem fractionRead {f e : List Char} (fraction : Fraction f) (exponent : Exponent e) :
    isFraction (f ++ e) = true := by
  cases fraction with
  | absent =>
    cases e with
    | nil => rfl
    | cons c rest =>
      obtain ⟨rfl | rfl, read⟩ := exponentRead exponent <;> simp [isFraction, read]
  | point digits =>
    obtain ⟨taken, left⟩ := digitsSpan digits.2 (exponentStart exponent)
    simp only [List.cons_append, isFraction, taken, left]
    cases e with
    | nil => simp [digits.1]
    | cons c rest => simp [digits.1, exponentRead exponent]

theorem unsigned {d : Char} (digit : d.isDigit = true) : d ≠ '-' := by
  rintro rfl
  exact absurd digit (by decide)

theorem wholeRead {w t : List Char} (whole : Whole w) (start : ∀ c ∈ t.head?, c.isDigit = false)
    (fraction : isFraction t = true) :
    isNumber (w ++ t) = true ∧ isNumber ('-' :: (w ++ t)) = true := by
  cases whole with
  | zero => exact ⟨fraction, fraction⟩
  | leading first positive rest =>
    obtain ⟨taken, left⟩ := digitsSpan (wholeDigits (.leading first positive rest)).2 start
    rw [List.cons_append] at taken left ⊢
    constructor
    · simp [isNumber, unsigned first, positive, taken, left, fraction]
    · simp [isNumber, positive, taken, left, fraction]

theorem numeralRead {ds : List Char} (numeral : Numeral ds) : isNumber ds = true := by
  cases numeral with
  | plain whole fraction exponent =>
    exact (wholeRead whole (tailStart fraction exponent) (fractionRead fraction exponent)).1
  | minus whole fraction exponent =>
    exact (wholeRead whole (tailStart fraction exponent) (fractionRead fraction exponent)).2

theorem tailAtomic {f e : List Char} (fraction : Fraction f) (exponent : Exponent e) :
    ∀ c ∈ f ++ e, isAtomic c = true := by
  intro c member
  rcases List.mem_append.mp member with inside | inside
  · cases fraction with
    | absent => simp at inside
    | point digits =>
      rcases List.mem_cons.mp inside with rfl | inside
      · decide
      · exact digitAtomic (digits.2 c inside)
  · cases exponent with
    | absent => simp at inside
    | plain letter digits =>
      rcases List.mem_cons.mp inside with rfl | inside
      · rcases letter with rfl | rfl <;> decide
      · exact digitAtomic (digits.2 c inside)
    | signed letter sign digits =>
      rcases List.mem_cons.mp inside with rfl | inside
      · rcases letter with rfl | rfl <;> decide
      rcases List.mem_cons.mp inside with rfl | inside
      · rcases sign with rfl | rfl <;> decide
      · exact digitAtomic (digits.2 c inside)

theorem numeralAtomic {ds : List Char} (numeral : Numeral ds) : ∀ c ∈ ds, isAtomic c = true := by
  have parts : ∀ {w f e : List Char}, Whole w → Fraction f → Exponent e →
      ∀ c ∈ w ++ (f ++ e), isAtomic c = true := by
    intro w f e whole fraction exponent c member
    rcases List.mem_append.mp member with inside | inside
    · exact digitAtomic ((wholeDigits whole).2 c inside)
    · exact tailAtomic fraction exponent c inside
  cases numeral with
  | plain whole fraction exponent => exact parts whole fraction exponent
  | minus whole fraction exponent =>
    intro c member
    rcases List.mem_cons.mp member with rfl | inside
    · decide
    · exact parts whole fraction exponent c inside

theorem numeralAtom {ds : List Char} (numeral : Numeral ds) : atom? ds = some (.number ds) := by
  have number := numeralRead numeral
  have other : ∀ word, isNumber word = false → ds ≠ word := by
    rintro word wrong rfl
    rw [wrong] at number
    exact absurd number (by decide)
  rw [atom?, if_neg (other _ rfl), if_neg (other _ rfl), if_neg (other _ rfl), if_pos number]

/-! Tokens. -/

def Apart (rest : List Char) : Prop :=
  ∀ c ∈ rest.head?, isAtomic c = false

theorem atomicStart {c : Char} (atomic : isAtomic c = true) (ended : List Token) :
    step.start c ended = some (.atom [c], ended) := by
  have solid : isSpace c = false := by
    rw [Bool.eq_false_iff]
    intro space
    simp only [isSpace, Bool.or_eq_true, decide_eq_true_eq] at space
    rcases space with ((rfl | rfl) | rfl) | rfl <;> exact absurd atomic (by decide)
  have bare : c ≠ '"' := by
    rintro rfl
    exact absurd atomic (by decide)
  simp [step.start, solid, bare, atomic]

theorem silentStep {mode next : Mode} {c : Char} (moved : step mode c = some (next, []))
    (rest : List Char) : tokensFrom mode (c :: rest) = tokensFrom next rest := by
  simp only [tokensFrom, moved, Option.bind_some]
  cases tokensFrom next rest <;> rfl

theorem startAfter (c : Char) (t : Token) :
    step.start c [t] = (step.start c []).map fun (mode, ended) => (mode, t :: ended) := by
  simp only [step.start]
  split
  · rfl
  split
  · rfl
  split
  · rfl
  cases mark? c <;> rfl

theorem atomRun {w : List Char} (atomic : ∀ c ∈ w, isAtomic c = true) (run rest : List Char) :
    tokensFrom (.atom run) (w ++ rest) = tokensFrom (.atom (w.reverse ++ run)) rest := by
  induction w generalizing run with
  | nil => rfl
  | cons c w ih =>
    have taken : step (.atom run) c = some (.atom (c :: run), []) := by
      simp [step, atomic c (by simp)]
    rw [List.cons_append, silentStep taken, ih fun c member => atomic c (by simp [member])]
    simp

theorem atomEnds {t : Token} {run rest : List Char} (atom : atom? run.reverse = some t)
    (apart : Apart rest) :
    tokensFrom (.atom run) rest = (tokensFrom .between rest).map (t :: ·) := by
  cases rest with
  | nil => simp [tokensFrom, atom]
  | cons c rest =>
    have other := apart c (by simp)
    simp only [tokensFrom, step, other, atom, startAfter]
    cases step.start c [] <;> simp [Function.comp_def]

theorem atomLexed {t : Token} {w rest : List Char} (filled : w ≠ [])
    (atomic : ∀ c ∈ w, isAtomic c = true) (atom : atom? w = some t) (apart : Apart rest) :
    tokensFrom .between (w ++ rest) = (tokensFrom .between rest).map (t :: ·) := by
  cases w with
  | nil => exact absurd rfl filled
  | cons c w =>
    have begun : step .between c = some (.atom [c], []) := atomicStart (atomic c (by simp)) []
    rw [List.cons_append, silentStep begun, atomRun fun c member => atomic c (by simp [member]),
      atomEnds (by simpa using atom) apart]

theorem markLexed {c : Char} {t : Token} (mark : mark? c = some t) (rest : List Char) :
    tokensFrom .between (c :: rest) = (tokensFrom .between rest).map (t :: ·) := by
  have known : c = '\x7b' ∨ c = '\x7d' ∨ c = '[' ∨ c = ']' ∨ c = ':' ∨ c = ',' := by
    refine Decidable.byContradiction fun other => ?_
    simp only [not_or] at other
    simp [mark?, other] at mark
  have marked : step .between c = some (.between, [t]) := by
    rcases known with rfl | rfl | rfl | rfl | rfl | rfl <;> cases mark <;> rfl
  simp [tokensFrom, marked]

theorem blankLexed {b : List Char} (blank : Blank b) (rest : List Char) :
    tokensFrom .between (b ++ rest) = tokensFrom .between rest := by
  induction b with
  | nil => rfl
  | cons c b ih =>
    have passed : step .between c = some (.between, []) := by
      simp [step, step.start, blank c (by simp)]
    rw [List.cons_append, silentStep passed, ih fun c member => blank c (by simp [member])]

theorem hexRead {n : Nat} {c : Char} (digit : HexDigit n c) : hexValue? c = some n := by
  have all : ∀ n < 16, hexValue? n.digitChar = some n ∧ hexValue? n.digitChar.toUpper = some n := by
    decide
  cases digit with
  | lower small => exact (all n small).1
  | upper small => exact (all n small).2

theorem unitRead {n : Nat} {u : List Char} (escape : UnitEscape n u) (done : List Piece)
    (rest : List Char) :
    tokensFrom (.inside done) (u ++ rest) = tokensFrom (.inside (.unit n :: done)) rest := by
  have opened : step (.inside done) '\\' = some (.escape done, []) := rfl
  have unit : step (.escape done) 'u' = some (.unit done 4 0, []) := rfl
  have digit : ∀ {n c left value}, HexDigit n c → step (.unit done (left + 2) value) c =
      some (.unit done (left + 1) (value * 16 + n), []) := by
    intro n c left value hex
    simp [step, hexRead hex]
  have last : ∀ {n c value}, HexDigit n c → step (.unit done 1 value) c =
      some (.inside (.unit (value * 16 + n) :: done), []) := by
    intro n c value hex
    simp [step, hexRead hex]
  cases escape with
  | digits first second third fourth =>
    simp only [List.cons_append, List.nil_append]
    rw [silentStep opened, silentStep unit, silentStep (digit first), silentStep (digit second),
      silentStep (digit third), silentStep (last fourth), Nat.zero_mul, Nat.zero_add]

theorem letterRead {e c : Char} (escape : Escape e c) (done : List Piece) (rest : List Char) :
    tokensFrom (.inside done) ('\\' :: e :: rest) = tokensFrom (.inside (.char c :: done)) rest := by
  have opened : step (.inside done) '\\' = some (.escape done, []) := rfl
  have letter : step (.escape done) e = some (.inside (.char c :: done), []) := by
    cases escape <;> rfl
  rw [silentStep opened, silentStep letter]

theorem contentRead {cs w : List Char} (content : Content cs w) :
    ∃ pieces, assemble pieces = some cs ∧ ∀ done rest,
      tokensFrom (.inside done) (w ++ rest) = tokensFrom (.inside (pieces.reverse ++ done)) rest := by
  induction content with
  | done => exact ⟨[], rfl, fun _ _ => rfl⟩
  | @plain c cs w visible bare free _ ih =>
    obtain ⟨pieces, whole, read⟩ := ih
    refine ⟨.char c :: pieces, by simp [assemble, whole], fun done rest => ?_⟩
    have plain : step (.inside done) c = some (.inside (.char c :: done), []) := by
      simp [step, bare, free, Nat.not_lt.mpr visible]
    rw [List.cons_append, silentStep plain, read]
    simp
  | @letter e c cs w escape _ ih =>
    obtain ⟨pieces, whole, read⟩ := ih
    refine ⟨.char c :: pieces, by simp [assemble, whole], fun done rest => ?_⟩
    rw [List.cons_append, List.cons_append, letterRead escape, read]
    simp
  | @unit n u cs w escape scalar _ ih =>
    obtain ⟨pieces, whole, read⟩ := ih
    have high : ¬ (0xD800 ≤ n ∧ n < 0xDC00) := by omega
    have low : ¬ (0xDC00 ≤ n ∧ n < 0xE000) := by omega
    refine ⟨.unit n :: pieces, ?_, fun done rest => ?_⟩
    · rw [assemble.eq_def]
      simp [high, low, whole]
    · rw [List.append_assoc, unitRead escape, read]
      simp
  | @pair h l u v cs w high first low second _ ih =>
    obtain ⟨pieces, whole, read⟩ := ih
    refine ⟨.unit (0xD800 + h) :: .unit (0xDC00 + l) :: pieces, ?_, fun done rest => ?_⟩
    · have fits : 0xD800 + h < 0xDC00 ∧ 0xDC00 + l < 0xE000 := by omega
      simp [assemble, fits, whole]
    · rw [List.append_assoc, List.append_assoc, unitRead high, unitRead low, read]
      simp

theorem quotedLexed {s : String} {w : List Char} (quoted : Quoted s w) (rest : List Char) :
    tokensFrom .between (w ++ rest) = (tokensFrom .between rest).map (Token.string (some s) :: ·) := by
  obtain ⟨body, content, rfl⟩ := quoted
  obtain ⟨pieces, whole, read⟩ := contentRead content
  have opened : step .between '"' = some (.inside [], []) := rfl
  have closed : step (.inside (pieces.reverse ++ [])) '"' = some (.between, [.string (some s)]) := by
    simp [step, whole]
  rw [List.cons_append, silentStep opened, List.append_assoc, read, List.singleton_append, tokensFrom,
    closed]
  rfl

/-! Values. -/

def readFrom (s : State) (cs : List Char) : Option State :=
  (tokensFrom .between cs).bind (State.run? s)

theorem readToken {t : Token} {w rest : List Char}
    (lexed : tokensFrom .between (w ++ rest) = (tokensFrom .between rest).map (t :: ·)) (s : State) :
    readFrom s (w ++ rest) = (s.step? t).bind fun next => readFrom next rest := by
  simp only [readFrom, lexed]
  cases tokensFrom .between rest with
  | none => cases s.step? t <;> rfl
  | some ts => rfl

theorem readMark {c : Char} {t : Token} (mark : mark? c = some t) (s : State) (rest : List Char) :
    readFrom s (c :: rest) = (s.step? t).bind fun next => readFrom next rest :=
  readToken (w := [c]) (markLexed mark rest) s

theorem readBlank {b : List Char} (blank : Blank b) (s : State) (rest : List Char) :
    readFrom s (b ++ rest) = readFrom s rest := by
  rw [readFrom, blankLexed blank, readFrom]

theorem spaceApart {c : Char} (space : isSpace c = true) : isAtomic c = false := by
  simp only [isSpace, Bool.or_eq_true, decide_eq_true_eq] at space
  rcases space with ((rfl | rfl) | rfl) | rfl <;> decide

theorem blankApart {b : List Char} (blank : Blank b) {c : Char} (mark : isAtomic c = false)
    (rest : List Char) : Apart (b ++ c :: rest) := by
  cases b with
  | nil => simpa [Apart] using mark
  | cons d b => simpa [Apart] using spaceApart (blank d (by simp))

def Ready (e : Expect) : Prop :=
  e = .value ∨ e = .first

theorem readyStep {e : Expect} (ready : Ready e) {t : Token} (opens : t ≠ .closeBracket)
    (frames : List Frame) : State.step? ⟨e, frames, none⟩ t = State.begin? frames t := by
  rcases ready with rfl | rfl
  · rfl
  · simp [State.step?]

theorem readAtom {t : Token} {v : Json} {w rest : List Char} (filled : w ≠ [])
    (atomic : ∀ c ∈ w, isAtomic c = true) (atom : atom? w = some t) (apart : Apart rest) {e : Expect}
    (ready : Ready e) (frames : List Frame) (begun : State.begin? frames t = some (State.put frames v)) :
    readFrom ⟨e, frames, none⟩ (w ++ rest) = readFrom (State.put frames v) rest := by
  have opens : t ≠ .closeBracket := by
    rintro rfl
    cases begun
  rw [readToken (atomLexed filled atomic atom apart), readyStep ready opens, begun, Option.bind_some]

theorem readKey {k : String} {q c : List Char} (key : Quoted k q) (inner : Blank c) {e : Expect}
    (ready : e = .key ∨ e = .firstKey) (members : List (Option String × Json)) (old : Option String)
    (frames : List Frame) (rest : List Char) :
    readFrom ⟨e, .object members old :: frames, none⟩ (q ++ (c ++ ':' :: rest)) =
      readFrom ⟨.value, .object members (some k) :: frames, none⟩ rest := by
  have step : State.step? ⟨e, .object members old :: frames, none⟩ (.string (some k)) =
      some ⟨.colon (some k), .object members old :: frames, none⟩ := by
    rcases ready with rfl | rfl <;> rfl
  rw [readToken (quotedLexed key _), step, Option.bind_some, readBlank inner, readMark rfl]
  rfl

section Ends
variable {b : List Char} (blank : Blank b) (items : List Json) (members : List (Option String × Json))
  (key : Option String) (v : Json) (frames : List Frame) (rest : List Char)
include blank

theorem readNextItem :
    readFrom (State.put (.array items :: frames) v) (b ++ ',' :: rest) =
      readFrom ⟨.value, .array (v :: items) :: frames, none⟩ rest := by
  rw [readBlank blank, readMark rfl]
  rfl

theorem readArrayEnd :
    readFrom (State.put (.array items :: frames) v) (b ++ ']' :: rest) =
      readFrom (State.put frames (.array (v :: items).reverse)) rest := by
  rw [readBlank blank, readMark rfl]
  rfl

theorem readNextMember :
    readFrom (State.put (.object members key :: frames) v) (b ++ ',' :: rest) =
      readFrom ⟨.key, .object ((key, v) :: members) none :: frames, none⟩ rest := by
  rw [readBlank blank, readMark rfl]
  rfl

theorem readObjectEnd :
    readFrom (State.put (.object members key :: frames) v) (b ++ '\x7d' :: rest) =
      readFrom (State.put frames (.object ((key, v) :: members).reverse)) rest := by
  rw [readBlank blank, readMark rfl]
  rfl

end Ends

mutual

/- The induction is on the text. A value ends in the same state wherever it stands, so the frames
around it and what follows it are left open. -/
theorem spelledRead {v : Json} {w : List Char} (spelled : Spelled v w) {e : Expect} (ready : Ready e)
    (frames : List Frame) {rest : List Char} (apart : Apart rest) :
    readFrom ⟨e, frames, none⟩ (w ++ rest) = readFrom (State.put frames v) rest := by
  cases spelled with
  | null => exact readAtom (t := .null) (by simp) (by simp; decide) rfl apart ready frames rfl
  | yes => exact readAtom (t := .bool true) (by simp) (by simp; decide) rfl apart ready frames rfl
  | no => exact readAtom (t := .bool false) (by simp) (by simp; decide) rfl apart ready frames rfl
  | number numeral =>
    have filled : w ≠ [] := by
      rintro rfl
      exact absurd (numeralRead numeral) (by decide)
    exact readAtom filled (numeralAtomic numeral) (numeralAtom numeral) apart ready frames rfl
  | string quoted =>
    rw [readToken (quotedLexed quoted rest), readyStep ready (by simp)]
    rfl
  | emptyArray blank =>
    rw [List.cons_append, List.append_assoc, readMark rfl, readyStep ready (by simp), State.begin?,
      Option.bind_some, readBlank blank, List.singleton_append, readMark rfl]
    rfl
  | array body =>
    rw [List.cons_append, List.append_assoc, readMark rfl, readyStep ready (by simp)]
    exact itemsRead body (.inr rfl) [] frames rest
  | emptyObject blank =>
    rw [List.cons_append, List.append_assoc, readMark rfl, readyStep ready (by simp), State.begin?,
      Option.bind_some, readBlank blank, List.singleton_append, readMark rfl]
    rfl
  | object body =>
    rw [List.cons_append, List.append_assoc, readMark rfl, readyStep ready (by simp)]
    exact membersRead body (.inr rfl) [] none frames rest

theorem itemsRead {items : List Json} {w : List Char} (spelled : ItemsSpelled items w) {e : Expect}
    (ready : Ready e) (before : List Json) (frames : List Frame) (rest : List Char) :
    readFrom ⟨e, .array before :: frames, none⟩ (w ++ ']' :: rest) =
      readFrom (State.put frames (.array (before.reverse ++ items))) rest := by
  cases spelled with
  | last blank value after =>
    simp only [List.append_assoc]
    rw [readBlank blank, spelledRead value ready _ (blankApart after rfl _), readArrayEnd after,
      List.reverse_cons]
  | more blank value after others =>
    simp only [List.append_assoc, List.cons_append]
    rw [readBlank blank, spelledRead value ready _ (blankApart after rfl _), readNextItem after,
      itemsRead others (.inl rfl), List.reverse_cons, List.append_assoc, List.singleton_append]

theorem membersRead {members : List (Option String × Json)} {w : List Char}
    (spelled : MembersSpelled members w) {e : Expect} (ready : e = .key ∨ e = .firstKey)
    (before : List (Option String × Json)) (old : Option String) (frames : List Frame)
    (rest : List Char) :
    readFrom ⟨e, .object before old :: frames, none⟩ (w ++ '\x7d' :: rest) =
      readFrom (State.put frames (.object (before.reverse ++ members))) rest := by
  cases spelled with
  | last blank key inner outer value after =>
    simp only [List.append_assoc, List.cons_append]
    rw [readBlank blank, readKey key inner ready, readBlank outer,
      spelledRead value (.inl rfl) _ (blankApart after rfl _), readObjectEnd after, List.reverse_cons]
  | more blank key inner outer value after others =>
    simp only [List.append_assoc, List.cons_append]
    rw [readBlank blank, readKey key inner ready, readBlank outer,
      spelledRead value (.inl rfl) _ (blankApart after rfl _), readNextMember after,
      membersRead others (.inl rfl), List.reverse_cons, List.append_assoc, List.singleton_append]

end

theorem writtenRead {v : Json} {cs : List Char} (written : Written v cs) : parse? cs = some v := by
  obtain ⟨b, w, c, before, spelled, after, rfl⟩ := written
  have apart : Apart c := by
    cases c with
    | nil => simp [Apart]
    | cons d c => exact blankApart (b := []) (by simp [Blank]) (spaceApart (after d (by simp))) c
  have read : readFrom .start (b ++ (w ++ c)) = some (State.put [] v) := by
    rw [readBlank before]
    calc readFrom .start (w ++ c) = readFrom (State.put [] v) c := spelledRead spelled (.inl rfl) [] apart
      _ = readFrom (State.put [] v) (c ++ []) := by rw [List.append_nil]
      _ = some (State.put [] v) := by rw [readBlank after]; rfl
  have parsed : parse? (b ++ (w ++ c)) = (readFrom .start (b ++ (w ++ c))).bind fun s =>
      if s.frames.isEmpty then s.result else none := by
    rw [readFrom, Option.bind_assoc, parse?, tokens?]
  rw [parsed, read]
  rfl

end ShellAtlas.Json
