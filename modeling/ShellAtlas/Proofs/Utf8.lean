import ShellAtlas.Text.Measure
import ShellAtlas.Text.Utf8
/-!
Text written as bytes and read again. The bytes of a character are one piece of every byte string that
they lead, so the display of a text's bytes is that text, and no other bytes are read as it. Texts stand
in the order of their bytes.
-/
namespace ShellAtlas.Text

section Pieces
variable {a b c d : UInt8} {rest : List UInt8}

theorem piecesOne (first : a < 0x80) : pieces (a :: rest) = some (Char.ofNat a.toNat) :: pieces rest := by
  rw [pieces.eq_def]
  simp [first]

theorem piecesTwo (first : 0xC2 ≤ a ∧ a ≤ 0xDF) (second : isTail b = true) :
    pieces (a :: b :: rest) = some (scalar2 a b) :: pieces rest := by
  have high : ¬ a < 0x80 := by
    simp only [UInt8.lt_iff_toNat_lt, UInt8.le_iff_toNat_le, UInt8.reduceToNat] at first ⊢
    omega
  rw [pieces.eq_def]
  simp [high, first, second]

theorem piecesThree (first : 0xE0 ≤ a ∧ a ≤ 0xEF) (second : second3 a b = true) (third : isTail c = true) :
    pieces (a :: b :: c :: rest) = some (scalar3 a b c) :: pieces rest := by
  have high : ¬ a < 0x80 ∧ ¬ a ≤ 0xDF := by
    simp only [UInt8.lt_iff_toNat_lt, UInt8.le_iff_toNat_le, UInt8.reduceToNat] at first ⊢
    omega
  rw [pieces.eq_def]
  simp [high, first, second, third]

theorem piecesFour (first : 0xF0 ≤ a ∧ a ≤ 0xF4) (second : second4 a b = true) (third : isTail c = true)
    (fourth : isTail d = true) :
    pieces (a :: b :: c :: d :: rest) = some (scalar4 a b c d) :: pieces rest := by
  have high : ¬ a < 0x80 ∧ ¬ a ≤ 0xDF ∧ ¬ a ≤ 0xEF := by
    simp only [UInt8.lt_iff_toNat_lt, UInt8.le_iff_toNat_le, UInt8.reduceToNat] at first ⊢
    omega
  rw [pieces.eq_def]
  simp [high, first, second, third, fourth]

end Pieces

theorem tailByte (n : Nat) : isTail (UInt8.ofNat (n % 64 + 128)) = true := by
  simp only [isTail, Bool.and_eq_true, decide_eq_true_eq, UInt8.le_iff_toNat_le, UInt8.reduceToNat,
    UInt8.toNat_ofNat']
  omega

/- The second of three bytes. The numbers that the first byte alone would let through are those below
0x800 and those of surrogates, and no character has such a number. -/
theorem secondOfThree {n : Nat} (least : 0x7FF < n) (most : n ≤ 0xFFFF) (valid : n < 0xD800 ∨ 0xDFFF < n) :
    second3 (UInt8.ofNat (n / 4096 % 16 + 224)) (UInt8.ofNat (n / 64 % 64 + 128)) = true := by
  simp only [second3, isTail, ← UInt8.toNat_inj, UInt8.le_iff_toNat_le, UInt8.toNat_ofNat',
    UInt8.reduceToNat]
  split
  case' isFalse => split
  all_goals
    simp only [Bool.and_eq_true, decide_eq_true_eq]
    omega

theorem secondOfFour {n : Nat} (least : 0xFFFF < n) (most : n < 0x110000) :
    second4 (UInt8.ofNat (n / 262144 % 8 + 240)) (UInt8.ofNat (n / 4096 % 64 + 128)) = true := by
  simp only [second4, isTail, ← UInt8.toNat_inj, UInt8.le_iff_toNat_le, UInt8.toNat_ofNat',
    UInt8.reduceToNat]
  split
  case' isFalse => split
  all_goals
    simp only [Bool.and_eq_true, decide_eq_true_eq]
    omega

theorem ofNatEq {c : Char} {n : Nat} (same : n = c.val.toNat) : Char.ofNat n = c := by
  rw [same]
  exact Char.ofNat_toNat c

theorem piecesEncoded (c : Char) (rest : List UInt8) :
    pieces (String.utf8EncodeChar c ++ rest) = some c :: pieces rest := by
  have valid : c.val.toNat < 0xD800 ∨ 0xDFFF < c.val.toNat ∧ c.val.toNat < 0x110000 := c.valid
  simp only [String.utf8EncodeChar]
  split
  · rw [List.singleton_append, piecesOne, UInt8.toNat_ofNat', ofNatEq (c := c) (by omega)]
    simp only [UInt8.lt_iff_toNat_lt, UInt8.reduceToNat, UInt8.toNat_ofNat']
    omega
  · split
    · simp only [List.cons_append, List.nil_append]
      rw [piecesTwo _ (tailByte _), scalar2, ofNatEq]
      · simp only [UInt8.toNat_ofNat']
        omega
      · simp only [UInt8.le_iff_toNat_le, UInt8.reduceToNat, UInt8.toNat_ofNat']
        omega
    · split
      · simp only [List.cons_append, List.nil_append]
        rw [piecesThree _ (secondOfThree (by omega) (by omega) (by omega)) (tailByte _), scalar3, ofNatEq]
        · simp only [UInt8.toNat_ofNat']
          omega
        · simp only [UInt8.le_iff_toNat_le, UInt8.reduceToNat, UInt8.toNat_ofNat']
          omega
      · simp only [List.cons_append, List.nil_append]
        rw [piecesFour _ (secondOfFour (by omega) (by omega)) (tailByte _) (tailByte _), scalar4, ofNatEq]
        · simp only [UInt8.toNat_ofNat']
          omega
        · simp only [UInt8.le_iff_toNat_le, UInt8.reduceToNat, UInt8.toNat_ofNat']
          omega

theorem piecesBytes (cs : List Char) : pieces (bytes cs) = cs.map some := by
  induction cs with
  | nil => rw [bytes, List.flatMap_nil, pieces.eq_def]; rfl
  | cons c cs ih =>
    rw [bytes, List.flatMap_cons, piecesEncoded, List.map_cons, ← ih]
    rfl

theorem displayBytes (cs : List Char) : display (bytes cs) = cs := by
  rw [display, piecesBytes, List.map_map]
  exact List.map_id cs

section Sequences
variable {a b c d : UInt8}

theorem ofNatNumber {n : Nat} (valid : n < 0xD800 ∨ 0xDFFF < n ∧ n < 0x110000) :
    (Char.ofNat n).val.toNat = n := by
  rw [Char.ofNat, dif_pos valid]
  exact UInt32.toNat_ofNatLT ..

theorem encodedOne (first : a < 0x80) : String.utf8EncodeChar (Char.ofNat a.toNat) = [a] := by
  simp only [UInt8.lt_iff_toNat_lt, UInt8.reduceToNat] at first
  rw [String.utf8EncodeChar, ofNatNumber (by omega), if_pos (by omega)]
  simp

theorem encodedTwo (first : 0xC2 ≤ a ∧ a ≤ 0xDF) (second : isTail b = true) :
    String.utf8EncodeChar (scalar2 a b) = [a, b] := by
  simp only [isTail, Bool.and_eq_true, decide_eq_true_eq, UInt8.le_iff_toNat_le, UInt8.reduceToNat]
    at first second
  rw [scalar2, String.utf8EncodeChar, ofNatNumber (by omega), if_neg (by omega), if_pos (by omega)]
  simp only [List.cons.injEq, ← UInt8.toNat_inj, UInt8.toNat_ofNat', and_true]
  omega

theorem encodedThree (first : 0xE0 ≤ a ∧ a ≤ 0xEF) (second : second3 a b = true) (third : isTail c = true) :
    String.utf8EncodeChar (scalar3 a b c) = [a, b, c] := by
  simp only [second3, isTail, ← UInt8.toNat_inj, Bool.and_eq_true, decide_eq_true_eq, UInt8.le_iff_toNat_le,
    UInt8.reduceToNat] at first second third
  have bounds : 0x80 ≤ b.toNat ∧ b.toNat ≤ 0xBF ∧ (a.toNat = 0xE0 → 0xA0 ≤ b.toNat) ∧
      (a.toNat = 0xED → b.toNat ≤ 0x9F) := by
    split at second
    case' isFalse => split at second
    all_goals
      simp only [Bool.and_eq_true, decide_eq_true_eq] at second
      omega
  rw [scalar3, String.utf8EncodeChar, ofNatNumber (by omega), if_neg (by omega), if_neg (by omega), if_pos (by omega)]
  simp only [List.cons.injEq, ← UInt8.toNat_inj, UInt8.toNat_ofNat', and_true]
  omega

theorem encodedFour (first : 0xF0 ≤ a ∧ a ≤ 0xF4) (second : second4 a b = true) (third : isTail c = true)
    (fourth : isTail d = true) : String.utf8EncodeChar (scalar4 a b c d) = [a, b, c, d] := by
  simp only [second4, isTail, ← UInt8.toNat_inj, Bool.and_eq_true, decide_eq_true_eq, UInt8.le_iff_toNat_le,
    UInt8.reduceToNat] at first second third fourth
  have bounds : 0x80 ≤ b.toNat ∧ b.toNat ≤ 0xBF ∧ (a.toNat = 0xF0 → 0x90 ≤ b.toNat) ∧
      (a.toNat = 0xF4 → b.toNat ≤ 0x8F) := by
    split at second
    case' isFalse => split at second
    all_goals
      simp only [Bool.and_eq_true, decide_eq_true_eq] at second
      omega
  rw [scalar4, String.utf8EncodeChar, ofNatNumber (by omega), if_neg (by omega), if_neg (by omega), if_neg (by omega)]
  simp only [List.cons.injEq, ← UInt8.toNat_inj, UInt8.toNat_ofNat', and_true]
  omega

end Sequences

theorem piecesLead {bs : List UInt8} {c : Char} {more : List (Option Char)}
    (read : pieces bs = some c :: more) :
    ∃ rest, bs = String.utf8EncodeChar c ++ rest ∧ more = pieces rest := by
  revert read
  fun_cases pieces bs
  -- Four of the cases begin with a character, one for each length of a sequence.
  all_goals
    intro read
    simp only [List.nil_eq, List.cons.injEq, Option.some.injEq, reduceCtorEq, false_and] at read
  all_goals obtain ⟨rfl, rfl⟩ := read
  case case2 first =>
    exact ⟨_, by rw [encodedOne first]; rfl, rfl⟩
  case case4 first _ _ second =>
    exact ⟨_, by rw [encodedTwo (by simpa using first) second]; rfl, rfl⟩
  case case8 first _ second _ _ third =>
    exact ⟨_, by rw [encodedThree (by simpa using first) second third]; rfl, rfl⟩
  case case14 first _ second _ third _ _ fourth =>
    exact ⟨_, by rw [encodedFour (by simpa using first) second third fourth]; rfl, rfl⟩

theorem mapMSome {os : List (Option Char)} {cs : List Char} :
    os.mapM id = some cs ↔ os = cs.map some := by
  induction os generalizing cs with
  | nil => cases cs <;> simp
  | cons o os ih =>
    rw [List.mapM_cons]
    cases o with
    | none => cases cs <;> simp
    | some c =>
      cases cs with
      | nil => simp [Option.bind_eq_some_iff]
      | cons d cs =>
        simp only [id, Option.bind_eq_bind, Option.bind_some, Option.bind_eq_some_iff, ih, List.map_cons,
          List.cons.injEq, Option.some.injEq, Option.pure_def]
        constructor
        · rintro ⟨ds, rest, rfl, rfl⟩
          exact ⟨rfl, rest⟩
        · rintro ⟨rfl, rest⟩
          exact ⟨cs, rest, rfl, rfl⟩

theorem piecesEmpty {bs : List UInt8} (read : pieces bs = []) : bs = [] := by
  revert read
  fun_cases pieces bs <;> simp

theorem decodeIff {bs : List UInt8} {cs : List Char} : decode? bs = some cs ↔ bs = bytes cs := by
  rw [decode?, mapMSome]
  refine ⟨fun read => ?_, fun same => same ▸ piecesBytes cs⟩
  induction cs generalizing bs with
  | nil => exact piecesEmpty read
  | cons c cs ih =>
    obtain ⟨rest, rfl, more⟩ := piecesLead read
    rw [ih more.symm]
    rfl

theorem encodedByte {c : Char} {b : UInt8} (member : b ∈ String.utf8EncodeChar c) :
    b = UInt8.ofNat c.toNat ∧ c.toNat < 128 ∨ 128 ≤ b.toNat := by
  simp only [String.utf8EncodeChar] at member
  split at member
  · rename_i low
    exact .inl ⟨List.mem_singleton.mp member, Nat.lt_succ_of_le low⟩
  · right
    split at member
    · simp only [List.mem_cons, List.not_mem_nil, or_false] at member
      rcases member with rfl | rfl <;> rw [UInt8.toNat_ofNat'] <;> omega
    · split at member
      · simp only [List.mem_cons, List.not_mem_nil, or_false] at member
        rcases member with rfl | rfl | rfl <;> rw [UInt8.toNat_ofNat'] <;> omega
      · simp only [List.mem_cons, List.not_mem_nil, or_false] at member
        rcases member with rfl | rfl | rfl | rfl <;> rw [UInt8.toNat_ofNat'] <;> omega

theorem lowChar {cs : List Char} {c : Char} (low : c.toNat < 128) (byte : UInt8.ofNat c.toNat ∈ bytes cs) :
    c ∈ cs := by
  have value : (UInt8.ofNat c.toNat).toNat = c.toNat := by
    rw [UInt8.toNat_ofNat', Nat.mod_eq_of_lt (by omega)]
  obtain ⟨d, member, inside⟩ := List.mem_flatMap.mp byte
  rcases encodedByte inside with ⟨same, small⟩ | high
  · have numbers := congrArg UInt8.toNat same
    rw [value, UInt8.toNat_ofNat', Nat.mod_eq_of_lt (by omega)] at numbers
    have found : d = c := Char.ext (UInt32.toNat_inj.mp numbers.symm)
    exact found ▸ member
  · omega

/- Four bytes stand in the order of the number that they spell: the highest part in which two numbers
differ is the first byte in which they do. -/
theorem fourBytesLT {m n : Nat} (less : m < n) (most : n < 0x110000) (left right : List UInt8) :
    UInt8.ofNat (m / 262144 % 8 + 240) :: UInt8.ofNat (m / 4096 % 64 + 128) ::
        UInt8.ofNat (m / 64 % 64 + 128) :: UInt8.ofNat (m % 64 + 128) :: left <
      UInt8.ofNat (n / 262144 % 8 + 240) :: UInt8.ofNat (n / 4096 % 64 + 128) ::
        UInt8.ofNat (n / 64 % 64 + 128) :: UInt8.ofNat (n % 64 + 128) :: right := by
  have parts : ∀ base, m / base < n / base ∨ m / base = n / base := fun base =>
    Nat.lt_or_eq_of_le (Nat.div_le_div_right (Nat.le_of_lt less))
  simp only [List.cons_lt_cons_iff, UInt8.lt_iff_toNat_lt, ← UInt8.toNat_inj, UInt8.toNat_ofNat']
  rcases parts 262144 with first | first
  · exact .inl (by omega)
  · refine .inr ⟨by omega, ?_⟩
    rcases parts 4096 with second | second
    · exact .inl (by omega)
    · refine .inr ⟨by omega, ?_⟩
      rcases parts 64 with third | third
      · exact .inl (by omega)
      · exact .inr ⟨by omega, .inl (by omega)⟩

theorem encodedLT {c d : Char} (less : c < d) (left right : List UInt8) :
    String.utf8EncodeChar c ++ left < String.utf8EncodeChar d ++ right := by
  have order : c.val.toNat < d.val.toNat := less
  have valid : d.val.toNat < 0xD800 ∨ 0xDFFF < d.val.toNat ∧ d.val.toNat < 0x110000 := d.valid
  simp only [String.utf8EncodeChar]
  generalize c.val.toNat = m at order ⊢
  generalize d.val.toNat = n at order valid ⊢
  by_cases long : 0xFFFF < m
  · -- Both have four bytes.
    have bounds : ¬ m ≤ 127 ∧ ¬ m ≤ 2047 ∧ ¬ m ≤ 65535 ∧ ¬ n ≤ 127 ∧ ¬ n ≤ 2047 ∧ ¬ n ≤ 65535 := by omega
    simpa [bounds] using fourBytesLT order (by omega) left right
  · repeat' split
    all_goals
      simp only [List.cons_append, List.nil_append, List.cons_lt_cons_iff, UInt8.lt_iff_toNat_lt,
        ← UInt8.toNat_inj, UInt8.toNat_ofNat']
      omega

theorem appendLT (bs : List UInt8) {left right : List UInt8} (less : left < right) :
    bs ++ left < bs ++ right := by
  induction bs with
  | nil => exact less
  | cons b bs ih => exact List.cons_lt_cons_iff.mpr (.inr ⟨rfl, ih⟩)

theorem bytesMono {cs ds : List Char} (less : cs < ds) : bytes cs < bytes ds := by
  induction cs generalizing ds with
  | nil =>
    cases ds with
    | nil => exact absurd less (List.lt_irrefl [])
    | cons d ds =>
      have filled : bytes (d :: ds) ≠ [] := by simp [bytes]
      obtain ⟨b, bs, spelled⟩ := List.exists_cons_of_ne_nil filled
      rw [spelled]
      exact List.nil_lt_cons b bs
  | cons c cs ih =>
    cases ds with
    | nil => exact absurd less (List.not_lt_nil _)
    | cons d ds =>
      simp only [bytes, List.flatMap_cons]
      rcases List.cons_lt_cons_iff.mp less with first | ⟨rfl, rest⟩
      · exact encodedLT first _ _
      · exact appendLT _ (ih rest)

theorem bytesLT {s t : String} : bytes s.toList < bytes t.toList ↔ s < t := by
  refine ⟨fun less => ?_, fun less => bytesMono (String.lt_iff.mp less)⟩
  apply Decidable.by_contra
  intro no
  by_cases more : t < s
  · exact List.lt_irrefl _ (List.lt_trans less (bytesMono (String.lt_iff.mp more)))
  · rw [String.le_antisymm (String.not_lt.mp more) (String.not_lt.mp no)] at less
    exact List.lt_irrefl _ less

end ShellAtlas.Text
