import Mathlib.Data.List.Nodup
import ShellAtlas.Index.Catalog
/-!
What a catalog holds after an insertion or a removal. The order of the entries is part of the type,
so a catalog is fixed by what it answers.
-/
namespace ShellAtlas.Catalog

variable {α : Type}

theorem keysDistinct (c : Catalog α) : c.keys.Nodup := by
  refine List.Pairwise.map Prod.fst ?_ c.ordered
  intro a b less same
  exact String.lt_irrefl b.1 (same ▸ less)

theorem sameValue {c : Catalog α} {key : String} {x y : α} (left : (key, x) ∈ c.entries)
    (right : (key, y) ∈ c.entries) : x = y :=
  congrArg Prod.snd (List.inj_on_of_nodup_map c.keysDistinct left right rfl)

theorem getIff {c : Catalog α} {key : String} {x : α} :
    c.get? key = some x ↔ (key, x) ∈ c.entries := by
  simp only [get?, Option.map_eq_some_iff]
  constructor
  · rintro ⟨e, found, rfl⟩
    have same : e.1 = key := by simpa using List.find?_some found
    exact same ▸ List.mem_of_find?_eq_some found
  · intro member
    cases found : c.entries.find? (·.1 = key) with
    | none => simpa using List.find?_eq_none.mp found (key, x) member
    | some e =>
      have same : e.1 = key := by simpa using List.find?_some found
      have present : (key, e.2) ∈ c.entries := same ▸ List.mem_of_find?_eq_some found
      exact ⟨e, rfl, sameValue present member⟩

theorem extOfGet {c d : Catalog α} (same : ∀ key, c.get? key = d.get? key) : c = d := by
  have members : ∀ e, e ∈ c.entries ↔ e ∈ d.entries := fun e => by
    rw [← Prod.eta e, ← getIff, ← getIff, same]
  have perm := (List.perm_ext_iff_of_nodup (c.keysDistinct.of_map _) (d.keysDistinct.of_map _)).mpr members
  have entries : c.entries = d.entries :=
    perm.eq_of_pairwise (fun _ _ _ _ less more => absurd (String.lt_trans less more) (String.lt_irrefl _))
      c.ordered d.ordered
  cases c
  cases d
  cases entries
  rfl

theorem memInsertInto {key : String} {a : α} {es : List (String × α)}
    (ordered : es.Pairwise fun a b => a.1 < b.1) {e : String × α} :
    e ∈ insertInto key a es ↔ e = (key, a) ∨ (e ∈ es ∧ e.1 ≠ key) := by
  induction es with
  | nil => simp [insertInto]
  | cons x es ih =>
    obtain ⟨first, rest⟩ := List.pairwise_cons.mp ordered
    simp only [insertInto]
    split
    · rename_i less
      have apart : ∀ y ∈ x :: es, y.1 ≠ key := fun y inside same => by
        rcases List.mem_cons.mp inside with rfl | inside
        · exact String.lt_irrefl _ (same ▸ less)
        · exact String.lt_irrefl _ (String.lt_trans (same ▸ less) (first y inside))
      constructor
      · intro member
        rcases List.mem_cons.mp member with here | inside
        · exact .inl here
        · exact .inr ⟨inside, apart e inside⟩
      · rintro (rfl | ⟨inside, -⟩)
        · exact List.mem_cons_self ..
        · exact List.mem_cons_of_mem _ inside
    · split
      · rename_i same
        have apart : ∀ y ∈ es, y.1 ≠ key := fun y inside equal =>
          String.lt_irrefl _ ((equal.trans same) ▸ first y inside)
        constructor
        · intro member
          rcases List.mem_cons.mp member with here | inside
          · exact .inl here
          · exact .inr ⟨List.mem_cons_of_mem _ inside, apart e inside⟩
        · rintro (rfl | ⟨inside, other⟩)
          · exact List.mem_cons_self ..
          · rcases List.mem_cons.mp inside with rfl | inside
            · exact absurd same.symm other
            · exact List.mem_cons_of_mem _ inside
      · rename_i notSame
        rw [List.mem_cons, ih rest, List.mem_cons]
        constructor
        · rintro (rfl | here | ⟨inside, other⟩)
          · exact .inr ⟨.inl rfl, fun same => notSame same.symm⟩
          · exact .inl here
          · exact .inr ⟨.inr inside, other⟩
        · rintro (here | ⟨rfl | inside, other⟩)
          · exact .inr (.inl here)
          · exact .inl rfl
          · exact .inr (.inr ⟨inside, other⟩)

@[simp] theorem getEmpty (key : String) : (empty : Catalog α).get? key = none := rfl

theorem getInsert (c : Catalog α) (key other : String) (a : α) :
    (c.insert key a).get? other = if other = key then some a else c.get? other := by
  ext x
  rw [getIff, insert, memInsertInto c.ordered]
  split
  · rename_i same
    simp [same, eq_comm]
  · rename_i different
    simp [different, getIff]

theorem keysInsert (c : Catalog α) (key : String) (a : α) :
    (c.insert key a).keys.filter (· ≠ key) = c.keys.filter (· ≠ key) := by
  have entries : ∀ es : List (String × α),
      ((insertInto key a es).map (·.1)).filter (· ≠ key) = (es.map (·.1)).filter (· ≠ key) := by
    intro es
    induction es with
    | nil => simp [insertInto]
    | cons e es ih =>
      unfold insertInto
      split
      · simp
      · split
        · rename_i same
          simp [← same]
        · rw [List.map_cons, List.map_cons, List.filter_cons, List.filter_cons, ih]
  exact entries c.entries

theorem keysErase (c : Catalog α) (key : String) : (c.erase key).keys = c.keys.filter (· ≠ key) := by
  rw [keys, erase, keys, List.filter_map]
  rfl

theorem getErase (c : Catalog α) (key other : String) :
    (c.erase key).get? other = if other = key then none else c.get? other := by
  ext x
  rw [getIff, erase, List.mem_filter]
  split
  · rename_i same
    simp [same]
  · rename_i different
    simp [different, getIff]

end ShellAtlas.Catalog
