import ShellAtlas.Json.Printer
import ShellAtlas.Proofs.Json.Text
/-!
What the printer writes. The compact form of a value and its indented form at every depth are texts of
that value. They differ only in the blanks between tokens, so both are the same lists of items and
members with other blanks in them.
-/
namespace ShellAtlas.Json

inductive Plain : Json → Prop where
  | null : Plain .null
  | bool (b : Bool) : Plain (.bool b)
  | number {ds : List Char} (numeral : Numeral ds) : Plain (.number ds)
  | text (s : String) : Plain (.text s)
  | array {items : List Json} (each : ∀ v ∈ items, Plain v) : Plain (.array items)
  | record {members : List (String × Json)} (each : ∀ m ∈ members, Plain m.2) : Plain (.record members)

theorem hexPrinted {n : Nat} (small : n < 16) : HexDigit n (hexDigit n) := by
  have same : ∀ n < 16, hexDigit n = n.digitChar := by decide
  rw [same n small]
  exact .lower small

theorem charPrinted (c : Char) {cs w : List Char} (more : Content cs w) :
    Content (c :: cs) (writeChar c ++ w) := by
  have numbered : ∀ {n : Nat}, c.toNat = n → c = Char.ofNat n := by
    rintro n rfl
    exact (Char.ofNat_toNat c).symm
  unfold writeChar
  split
  · subst c
    exact .letter .quote more
  split
  · subst c
    exact .letter .backslash more
  split
  · rename_i number
    rw [numbered number]
    exact .letter .backspace more
  split
  · rename_i number
    rw [numbered number]
    exact .letter .feed more
  split
  · subst c
    exact .letter .newline more
  split
  · subst c
    exact .letter .carriage more
  split
  · subst c
    exact .letter .tab more
  split
  · rename_i control
    have escape := UnitEscape.digits (hexPrinted (n := 0) (by decide)) (hexPrinted (n := 0) (by decide))
      (hexPrinted (n := c.toNat / 16) (by omega)) (hexPrinted (n := c.toNat % 16) (by omega))
    have value : ((0 * 16 + 0) * 16 + c.toNat / 16) * 16 + c.toNat % 16 = c.toNat := by omega
    rw [value] at escape
    have content := Content.unit escape (by omega) more
    rwa [Char.ofNat_toNat] at content
  · rename_i bare free _ _ _ _ _ visible
    exact .plain (Nat.not_lt.mp visible) bare free more

theorem stringPrinted (s : String) : Quoted s (writeString (some s)) := by
  have content : ∀ cs : List Char, Content cs (cs.flatMap writeChar) := by
    intro cs
    induction cs with
    | nil => exact .done
    | cons c cs ih => exact charPrinted c ih
  exact ⟨_, content s.toList, rfl⟩

theorem blankNone : Blank [] := by
  simp [Blank]

theorem blankSpace : Blank [' '] := by
  simp [Blank, isSpace]

theorem blankNewline (depth : Nat) : Blank (newline depth) := by
  intro c member
  rcases List.mem_cons.mp member with rfl | member
  · decide
  · rw [(List.mem_replicate.mp member).2]
    decide

section Lists
variable {text : Json → List Char} {before after gap : List Char} (lead : Blank before)
  (trail : Blank after) (inside : Blank gap)
include lead trail

theorem itemsPrinted (print : List Json → List Char) (one : ∀ v, print [v] = before ++ text v)
    (more : ∀ v w rest, print (v :: w :: rest) = before ++ text v ++ ',' :: print (w :: rest)) (v : Json)
    (vs : List Json) (each : ∀ x ∈ v :: vs, Spelled x (text x)) :
    ItemsSpelled (v :: vs) (print (v :: vs) ++ after) := by
  induction vs generalizing v with
  | nil =>
    rw [one, List.append_assoc]
    exact .last lead (each v (by simp)) trail
  | cons w vs ih =>
    have rest := ih w fun x member => each x (by simp [member])
    have item := ItemsSpelled.more lead (each v (by simp)) blankNone rest
    simpa [more] using item

include inside

theorem membersPrinted (print : List (Option String × Json) → List Char)
    (one : ∀ k v, print [(k, v)] = before ++ writeString k ++ ':' :: (gap ++ text v))
    (more : ∀ k v m rest, print ((k, v) :: m :: rest) =
      before ++ writeString k ++ ':' :: (gap ++ text v) ++ ',' :: print (m :: rest))
    (k : String) (v : Json) (ms : List (String × Json))
    (each : ∀ m ∈ (k, v) :: ms, Spelled m.2 (text m.2)) :
    MembersSpelled ((some k, v) :: ms.map fun m => (some m.1, m.2))
      (print ((some k, v) :: ms.map fun m => (some m.1, m.2)) ++ after) := by
  induction ms generalizing k v with
  | nil =>
    have member := MembersSpelled.last lead (stringPrinted k) blankNone inside
      (each (k, v) (by simp)) trail
    simpa [one] using member
  | cons m ms ih =>
    have rest := ih m.1 m.2 fun x member => each x (by simpa using .inr (by simpa using member))
    have member := MembersSpelled.more lead (stringPrinted k) blankNone inside
      (each (k, v) (by simp)) blankNone rest
    simpa [more] using member

end Lists

theorem compactSpelled {v : Json} (plain : Plain v) : Spelled v (compact v) := by
  induction plain with
  | null => exact .null
  | bool b =>
    cases b with
    | true => exact .yes
    | false => exact .no
  | number numeral => exact .number numeral
  | text s => exact .string (stringPrinted s)
  | @array items each ih =>
    cases items with
    | nil => exact .emptyArray blankNone
    | cons v vs =>
      have body := itemsPrinted blankNone blankNone compactItems (fun _ => rfl) (fun _ _ _ => rfl) v vs ih
      rw [List.append_nil] at body
      exact .array body
  | @record members each ih =>
    cases members with
    | nil => exact .emptyObject blankNone
    | cons m ms =>
      have body := membersPrinted blankNone blankNone blankNone compactMembers (fun _ _ => rfl)
        (fun _ _ _ _ => rfl) m.1 m.2 ms ih
      rw [List.append_nil] at body
      exact .object body

theorem prettySpelled {v : Json} (plain : Plain v) (depth : Nat) : Spelled v (pretty depth v) := by
  induction plain generalizing depth with
  | null => exact .null
  | bool b =>
    cases b with
    | true => exact .yes
    | false => exact .no
  | number numeral => exact .number numeral
  | text s => exact .string (stringPrinted s)
  | @array items each ih =>
    cases items with
    | nil => exact .emptyArray blankNone
    | cons v vs =>
      have body := itemsPrinted (blankNewline (depth + 1)) (blankNewline depth) (prettyItems (depth + 1))
        (fun _ => rfl) (fun _ _ _ => rfl) v vs fun x member => ih x member (depth + 1)
      exact .array body
  | @record members each ih =>
    cases members with
    | nil => exact .emptyObject blankNone
    | cons m ms =>
      have body := membersPrinted (blankNewline (depth + 1)) (blankNewline depth) blankSpace
        (prettyMembers (depth + 1)) (fun _ _ => rfl) (fun _ _ _ _ => rfl) m.1 m.2 ms
        fun x member => ih x member (depth + 1)
      exact .object body

end ShellAtlas.Json
