import Mathlib.Data.List.Induction
import Mathlib.Logic.Relation
import ShellAtlas.Proofs.Path
/-!
Normal forms of paths. A path folds by small steps: a dot says nothing, a step up takes away the name
before it, and above the root there is nothing. No step changes what folding gives on top of whatever
stands before, and normalizing is a run of such steps. So a normal form stays as it is, and it can be
taken before two paths are joined or after.
-/
namespace ShellAtlas.Path

inductive Folds : List Component → List Component → Prop where
  | here (before after : List Component) : Folds (before ++ .here :: after) (before ++ after)
  | name (before after : List Component) (n : List UInt8) :
      Folds (before ++ .name n :: .up :: after) (before ++ after)
  | root (before after : List Component) :
      Folds (before ++ .root :: .up :: after) (before ++ .root :: after)

theorem foldsBefore {cs ds : List Component} (step : Folds cs ds) (more : List Component) :
    Folds (cs ++ more) (ds ++ more) := by
  cases step with
  | here before after => simpa using Folds.here before (after ++ more)
  | name before after n => simpa using Folds.name before (after ++ more) n
  | root before after => simpa using Folds.root before (after ++ more)

theorem foldsKept {cs ds : List Component} (step : Folds cs ds) (done : List Component) :
    cs.foldl foldComponent done = ds.foldl foldComponent done := by
  cases step with
  | here before after => rw [List.foldl_append, List.foldl_append]; rfl
  | name before after n => rw [List.foldl_append, List.foldl_append]; rfl
  | root before after => rw [List.foldl_append, List.foldl_append]; rfl

theorem foldsAllKept {cs ds : List Component} (steps : Relation.ReflTransGen Folds cs ds)
    (done : List Component) : cs.foldl foldComponent done = ds.foldl foldComponent done := by
  induction steps with
  | refl => rfl
  | tail _ step ih => exact ih.trans (foldsKept step done)

theorem foldsComponent (done : List Component) (c : Component) :
    Relation.ReflTransGen Folds (done.reverse ++ [c]) (foldComponent done c).reverse := by
  cases c with
  | root => simpa [foldComponent] using Relation.ReflTransGen.refl
  | here => simpa [foldComponent] using Relation.ReflTransGen.single (Folds.here done.reverse [])
  | name n => simpa [foldComponent] using Relation.ReflTransGen.refl
  | up =>
    cases done with
    | nil => exact .refl
    | cons last rest =>
      cases last with
      | root => simpa [foldComponent] using Relation.ReflTransGen.single (Folds.root rest.reverse [])
      | here => simpa [foldComponent] using Relation.ReflTransGen.refl
      | up => simpa [foldComponent] using Relation.ReflTransGen.refl
      | name n => simpa [foldComponent] using Relation.ReflTransGen.single (Folds.name rest.reverse [] n)

theorem foldsFolded (cs : List Component) : Relation.ReflTransGen Folds cs (foldComponents cs) := by
  induction cs using List.reverseRecOn with
  | nil => exact .refl
  | append_singleton cs c ih =>
    have front : Relation.ReflTransGen Folds (cs ++ [c]) (foldComponents cs ++ [c]) :=
      ih.lift (· ++ [c]) fun _ _ step => foldsBefore step [c]
    have last : foldComponents (cs ++ [c]) = (foldComponent (cs.foldl foldComponent []) c).reverse := by
      rw [foldComponents, List.foldl_append]
      rfl
    rw [last]
    exact front.trans (foldsComponent _ c)

theorem foldFolded (cs done : List Component) :
    (foldComponents cs).foldl foldComponent done = cs.foldl foldComponent done :=
  (foldsAllKept (foldsFolded cs) done).symm

theorem foldRelative {p : Path} (relative : p.isAbsolute = false) (done : List Component) :
    p.components.foldl foldComponent done = p.inner.foldl foldComponent done := by
  unfold components
  rw [if_neg (by simp [relative])]
  split
  · rfl
  · rfl

theorem normalizeComponents (p : Path) : p.normalize.components = foldComponents p.components := by
  cases absolute : p.isAbsolute with
  | true => rw [normalizeAbsolute absolute, componentsOfNames (routeProper p), foldAbsolute absolute]
  | false => exact looseComponents (foldedSolid absolute)

theorem normalizeIsAbsolute (p : Path) : p.normalize.isAbsolute = p.isAbsolute := by
  cases absolute : p.isAbsolute with
  | true => rw [normalizeAbsolute absolute, ofNamesAbsolute]
  | false => exact looseRelative (foldedSolid absolute)

theorem normalizeNormalize (p : Path) : p.normalize.normalize = p.normalize := by
  rw [normalize, normalizeComponents, foldComponents, foldFolded]
  rfl

/- What a relative path has folded to is names, the last first, on top of steps up. -/
def Climbs (done : List Component) : Prop :=
  ∃ (names : List (List UInt8)) (ups : Nat), done = names.map .name ++ List.replicate ups .up

theorem climbsStep {done : List Component} {c : Component} (climbs : Climbs done) (solid : c.Solid) :
    Climbs (foldComponent done c) := by
  obtain ⟨names, ups, rfl⟩ := climbs
  cases c with
  | root => exact solid.elim
  | here => exact solid.elim
  | name n => exact ⟨n :: names, ups, rfl⟩
  | up =>
    cases names with
    | cons n names => exact ⟨names, ups, rfl⟩
    | nil =>
      refine ⟨[], ups + 1, ?_⟩
      cases ups with
      | zero => rfl
      | succ ups => rfl

theorem climbsRun {cs done : List Component} (climbs : Climbs done) (solid : ∀ c ∈ cs, c.Solid) :
    Climbs (cs.foldl foldComponent done) := by
  induction cs generalizing done with
  | nil => exact climbs
  | cons c rest ih =>
    exact ih (climbsStep climbs (solid c (List.mem_cons_self ..))) fun d inside =>
      solid d (List.mem_cons_of_mem _ inside)

theorem upBehindUp {p : Path} {before after : List Component}
    (parts : p.normalize.components = before ++ .up :: after) :
    p.isAbsolute = false ∧ ∀ c ∈ before, c = .up := by
  rw [normalizeComponents] at parts
  cases absolute : p.isAbsolute with
  | true =>
    have inside : Component.up ∈ foldComponents p.components := by simp [parts]
    simp [foldAbsolute absolute] at inside
  | false =>
    have start : Climbs [] := ⟨[], 0, rfl⟩
    obtain ⟨names, ups, folded⟩ := climbsRun start fun c (member : c ∈ p.inner) => innerSolid member
    rw [foldComponents, foldRelative absolute, folded, List.reverse_append, List.reverse_replicate,
      ← List.map_reverse] at parts
    refine ⟨rfl, fun c member => ?_⟩
    rcases List.append_eq_append_iff.mp parts with ⟨gap, _, late⟩ | ⟨gap, early, _⟩
    · have named : Component.up ∈ names.reverse.map Component.name := by simp [late]
      simp at named
    · exact List.eq_of_mem_replicate (early ▸ List.mem_append_left gap member)

theorem joinLoose {p q : Path} (relative : p.isAbsolute = false) (also : q.isAbsolute = false) :
    (p.join q).isAbsolute = false := by
  unfold join
  rw [if_neg (by simp [also])]
  split
  · exact also
  · rename_i filled
    obtain ⟨b, rest, spelled⟩ := List.exists_cons_of_ne_nil filled
    have other : b ≠ slash := by simpa [isAbsolute, spelled] using relative
    split <;> simp [isAbsolute, spelled, other]

theorem foldJoin {p q : Path} (relative : q.isAbsolute = false) :
    (p.join q).components.foldl foldComponent [] =
      q.components.foldl foldComponent (p.components.foldl foldComponent []) := by
  by_cases empty : p.bytes = []
  · obtain ⟨bytes⟩ := p
    subst empty
    have joined : (Path.mk []).join q = q := by simp [join, relative]
    rw [joined]
    rfl
  · have whole := joinRelative relative empty
    rw [foldRelative relative]
    cases absolute : p.isAbsolute with
    | true =>
      rw [componentsAbsolute (joinAbsolute absolute), componentsAbsolute absolute, whole, List.foldl_cons,
        List.foldl_cons, List.foldl_append]
    | false =>
      rw [foldRelative (joinLoose absolute relative), foldRelative absolute, whole, List.foldl_append]

theorem normalizeJoin (p q : Path) : (p.join q).normalize = (p.normalize.join q.normalize).normalize := by
  cases absolute : q.isAbsolute with
  | true =>
    have also : q.normalize.isAbsolute = true := (normalizeIsAbsolute q).trans absolute
    rw [joinOver absolute, joinOver also, normalizeNormalize]
  | false =>
    have also : q.normalize.isAbsolute = false := (normalizeIsAbsolute q).trans absolute
    have same : foldComponents (p.join q).components =
        foldComponents (p.normalize.join q.normalize).components := by
      rw [foldComponents, foldComponents, foldJoin absolute, foldJoin also, normalizeComponents,
        normalizeComponents, foldFolded, foldFolded]
    rw [normalize, same]
    rfl

/- A normal form has no dot, and steps up only at its start and only if it is relative. It is reached from
the path by folding, is absolute exactly if the path is, and stays under normalizing. Joining two paths and
joining their normal forms comes to the same. -/
theorem normalFormJoins (p : Path) :
    .here ∉ p.normalize.components ∧
    (∀ before after, p.normalize.components = before ++ .up :: after →
      p.isAbsolute = false ∧ ∀ c ∈ before, c = .up) ∧
    Relation.ReflTransGen Folds p.components p.normalize.components ∧
    p.normalize.isAbsolute = p.isAbsolute ∧
    p.normalize.normalize = p.normalize ∧
    ∀ q, (p.join q).normalize = (p.normalize.join q.normalize).normalize := by
  refine ⟨?_, fun before after => upBehindUp, ?_, normalizeIsAbsolute p, normalizeNormalize p, normalizeJoin p⟩
  · intro here
    rw [normalizeComponents] at here
    exact (foldComponentsMember here).2 rfl
  · rw [normalizeComponents]
    exact foldsFolded p.components

/- `./../a//../../b` and `c/../..` -/
def climbing : Path :=
  ⟨[dot, slash, dot, dot, slash, 97, slash, slash, dot, dot, slash, dot, dot, slash, 98]⟩

theorem climbingJoins :
    climbing.normalize.components = [.up, .up, .name [98]] ∧
    climbing.isAbsolute = false ∧ (∀ c ∈ [Component.up], c = .up) ∧
    (climbing.join ⟨[99, slash, dot, dot, slash, dot, dot]⟩).normalize = ⟨[dot, dot, slash, dot, dot]⟩ := by
  have parts : climbing.normalize.components = [.up] ++ .up :: [.name [98]] := by decide
  obtain ⟨_, leading, _, _, _, joins⟩ := normalFormJoins climbing
  exact ⟨parts, (leading _ _ parts).1, (leading _ _ parts).2, (joins _).trans (by decide)⟩

end ShellAtlas.Path
