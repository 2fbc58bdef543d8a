/-!
Values kept under texts. The entries stand in the order of their keys, each key once, so two
catalogs with the same values under the same keys are equal.
-/
namespace ShellAtlas

structure Catalog (α : Type) where
  entries : List (String × α)
  ordered : entries.Pairwise fun a b => a.1 < b.1

namespace Catalog

variable {α : Type}

def empty : Catalog α :=
  ⟨[], .nil⟩

def keys (c : Catalog α) : List String :=
  c.entries.map (·.1)

def values (c : Catalog α) : List α :=
  c.entries.map (·.2)

def size (c : Catalog α) : Nat :=
  c.entries.length

def get? (c : Catalog α) (key : String) : Option α :=
  (c.entries.find? (·.1 = key)).map (·.2)

def insertInto (key : String) (a : α) : List (String × α) → List (String × α)
  | [] => [(key, a)]
  | e :: es =>
    if key < e.1 then (key, a) :: e :: es
    else if key = e.1 then (key, a) :: es
    else e :: insertInto key a es

theorem keyOfInsertInto {key : String} {a : α} {es : List (String × α)} {e : String × α}
    (h : e ∈ insertInto key a es) : e.1 = key ∨ e ∈ es := by
  induction es with
  | nil => simp [insertInto] at h; exact .inl (by rw [h])
  | cons x es ih =>
    simp only [insertInto] at h
    split at h
    · rcases List.mem_cons.mp h with rfl | h
      · exact .inl rfl
      · exact .inr h
    · split at h
      · rcases List.mem_cons.mp h with rfl | h
        · exact .inl rfl
        · exact .inr (List.mem_cons_of_mem _ h)
      · rcases List.mem_cons.mp h with rfl | h
        · exact .inr (List.mem_cons_self ..)
        · exact (ih h).imp_right (List.mem_cons_of_mem _)

theorem insertIntoOrdered {key : String} {a : α} {es : List (String × α)}
    (h : es.Pairwise fun a b => a.1 < b.1) :
    (insertInto key a es).Pairwise fun a b => a.1 < b.1 := by
  induction es with
  | nil => simp [insertInto]
  | cons e es ih =>
    obtain ⟨first, rest⟩ := List.pairwise_cons.mp h
    simp only [insertInto]
    split
    · rename_i less
      refine List.pairwise_cons.mpr ⟨fun x hx => ?_, h⟩
      rcases List.mem_cons.mp hx with rfl | hx
      · exact less
      · exact String.lt_trans less (first x hx)
    · split
      · rename_i same
        exact List.pairwise_cons.mpr ⟨fun x hx => same ▸ first x hx, rest⟩
      · rename_i notLess notSame
        refine List.pairwise_cons.mpr ⟨fun x hx => ?_, ih rest⟩
        rcases keyOfInsertInto hx with here | inside
        · rw [here]
          exact Decidable.by_contra fun more =>
            notSame (String.le_antisymm (String.not_lt.mp more) (String.not_lt.mp notLess))
        · exact first x inside

def insert (c : Catalog α) (key : String) (a : α) : Catalog α :=
  ⟨insertInto key a c.entries, insertIntoOrdered c.ordered⟩

def erase (c : Catalog α) (key : String) : Catalog α :=
  ⟨c.entries.filter (·.1 ≠ key), c.ordered.filter _⟩

end Catalog

end ShellAtlas
