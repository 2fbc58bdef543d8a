import Mathlib.Data.List.Induction
import Mathlib.Data.List.Nodup
import ShellAtlas.Proofs.History
/-!
What the search along sourcing edges finds. A URI is met along the targets of the documents looked
at, in the order they are looked at, and it is looked at itself if the first target that names it
is resolved. So a document whose URI is first met unresolved is passed over, also where a resolved
target names it later, and this is the only way in which the search can miss anything.
-/
namespace ShellAtlas.Atlas

theorem memTargets {a : Atlas} {uri : String} {t : Target} :
    t ∈ a.targets uri ↔ ∃ d, a.document? uri = some d ∧ t ∈ d.targets := by
  unfold targets
  cases a.document? uri <;> simp

inductive Reaches (a : Atlas) : String → String → Prop where
  | direct {uri d t} (entry : a.document? uri = some d) (edge : t ∈ d.targets) :
      Reaches a uri t.uri
  | through {uri d next last} (entry : a.document? uri = some d)
      (edge : .resolved next ∈ d.targets) (rest : Reaches a next last) : Reaches a uri last

inductive Follows (a : Atlas) (uri : String) : String → Prop where
  | start : Follows a uri uri
  | step {here next} (before : Follows a uri here) (edge : .resolved next ∈ a.targets here) :
      Follows a uri next

theorem followsFrom {a : Atlas} {uri next last : String} (edge : .resolved next ∈ a.targets uri)
    (rest : a.Follows next last) : a.Follows uri last := by
  induction rest with
  | start => exact .step .start edge
  | step _ later ih => exact .step ih later

theorem reachesOfFollows {a : Atlas} {uri here last : String} (before : a.Follows uri here)
    (rest : a.Reaches here last) : a.Reaches uri last := by
  induction before with
  | start => exact rest
  | step _ edge ih =>
    obtain ⟨d, entry, member⟩ := memTargets.mp edge
    exact ih (.through entry member rest)

theorem reachesIff {a : Atlas} {uri last : String} :
    a.Reaches uri last ↔ ∃ here, a.Follows uri here ∧ ∃ t ∈ a.targets here, t.uri = last := by
  constructor
  · intro chain
    induction chain with
    | @direct uri d t entry edge => exact ⟨uri, .start, t, memTargets.mpr ⟨d, entry, edge⟩, rfl⟩
    | @through uri d next last entry edge rest ih =>
      obtain ⟨here, before, found⟩ := ih
      exact ⟨here, followsFrom (memTargets.mpr ⟨d, entry, edge⟩) before, found⟩
  · rintro ⟨here, before, t, edge, rfl⟩
    obtain ⟨d, entry, member⟩ := memTargets.mp edge
    exact reachesOfFollows before (.direct entry member)

def keepFirst (done : List Target) (t : Target) : List Target :=
  if (done.map Target.uri).contains t.uri then done else done ++ [t]

def firstMet (ts : List Target) : List Target :=
  ts.foldl keepFirst []

theorem firstMetSnoc (ts : List Target) (t : Target) :
    firstMet (ts ++ [t]) = keepFirst (firstMet ts) t := by
  simp [firstMet]

theorem keepFirstKept {done : List Target} {t s : Target} (kept : s ∈ keepFirst done t) :
    s ∈ done ∨ s = t := by
  unfold keepFirst at kept
  split at kept
  · exact .inl kept
  · simpa using kept

theorem firstMetMember {ts : List Target} {t : Target} (kept : t ∈ firstMet ts) : t ∈ ts := by
  induction ts using List.reverseRecOn with
  | nil => exact kept
  | append_singleton ts s ih =>
    rw [firstMetSnoc] at kept
    rcases keepFirstKept kept with before | rfl
    · exact List.mem_append_left _ (ih before)
    · simp

theorem firstMetNames {ts : List Target} {t : Target} (met : t ∈ ts) :
    ∃ s ∈ firstMet ts, s.uri = t.uri := by
  induction ts using List.reverseRecOn with
  | nil => simp at met
  | append_singleton ts s ih =>
    rw [firstMetSnoc, keepFirst]
    split
    · rename_i known
      rcases List.mem_append.mp met with before | last
      · exact ih before
      · rw [List.mem_singleton.mp last]
        exact List.mem_map.mp (List.contains_iff_mem.mp known)
    · rcases List.mem_append.mp met with before | last
      · obtain ⟨x, kept, same⟩ := ih before
        exact ⟨x, List.mem_append_left _ kept, same⟩
      · exact ⟨s, by simp, by rw [List.mem_singleton.mp last]⟩

theorem firstMetDistinct (ts : List Target) : ((firstMet ts).map Target.uri).Nodup := by
  induction ts using List.reverseRecOn with
  | nil => exact List.nodup_nil
  | append_singleton ts t ih =>
    rw [firstMetSnoc, keepFirst]
    split
    · exact ih
    · rename_i fresh
      rw [List.map_append, List.nodup_append]
      refine ⟨ih, by simp, ?_⟩
      intro x known y last same
      obtain ⟨s, kept, rfl⟩ := List.mem_map.mp known
      simp only [List.map_cons, List.map_nil, List.mem_singleton] at last
      exact fresh (List.contains_iff_mem.mpr (List.mem_map.mpr ⟨s, kept, same.trans last⟩))

def followed (ts : List Target) : List String :=
  (ts.filter Target.isResolved).map Target.uri

theorem memFollowed {ts : List Target} {uri : String} :
    uri ∈ followed ts ↔ .resolved uri ∈ ts := by
  simp only [followed, List.mem_map, List.mem_filter]
  constructor
  · rintro ⟨t, ⟨member, resolved⟩, rfl⟩
    cases t with
    | resolved u => exact member
    | unresolved u => simp [Target.isResolved] at resolved
  · intro member
    exact ⟨_, ⟨member, rfl⟩, rfl⟩

structure Searched (a : Atlas) (uri : String) (looked : List String) (f : Front) : Prop where
  found : f.found = (firstMet (looked.flatMap a.targets)).map Target.uri
  order : looked ++ f.queue = uri :: followed (firstMet (looked.flatMap a.targets))
  follows : ∀ other ∈ looked ++ f.queue, a.Follows uri other

theorem meetFirst {uri : String} {looked queue : List String} {met : List Target}
    (order : looked ++ queue = uri :: followed (firstMet met)) (t : Target) :
    (Front.meet ⟨queue, (firstMet met).map Target.uri⟩ t).found =
      (firstMet (met ++ [t])).map Target.uri ∧
    looked ++ (Front.meet ⟨queue, (firstMet met).map Target.uri⟩ t).queue =
      uri :: followed (firstMet (met ++ [t])) := by
  rw [firstMetSnoc, keepFirst]
  simp only [Front.meet]
  split
  · exact ⟨rfl, order⟩
  · split
    · rename_i resolved
      refine ⟨by simp, ?_⟩
      rw [← List.append_assoc, order]
      simp [followed, resolved]
    · rename_i unresolved
      refine ⟨by simp, ?_⟩
      rw [order]
      simp [followed, unresolved]

theorem meetAll {uri : String} {looked queue : List String} {met : List Target}
    (order : looked ++ queue = uri :: followed (firstMet met)) (ts : List Target) :
    (ts.foldl Front.meet ⟨queue, (firstMet met).map Target.uri⟩).found =
      (firstMet (met ++ ts)).map Target.uri ∧
    looked ++ (ts.foldl Front.meet ⟨queue, (firstMet met).map Target.uri⟩).queue =
      uri :: followed (firstMet (met ++ ts)) := by
  induction ts generalizing queue met with
  | nil => simpa using order
  | cons t rest ih =>
    obtain ⟨found, next⟩ := meetFirst order t
    have later := ih next
    rw [← found] at later
    simpa using later

theorem searchedStart (a : Atlas) (uri : String) : a.Searched uri [] ⟨[uri], []⟩ :=
  ⟨rfl, rfl, by simpa using Follows.start⟩

theorem searchedStep {a : Atlas} {uri next : String} {looked rest found : List String}
    (before : a.Searched uri looked ⟨next :: rest, found⟩) :
    a.Searched uri (looked ++ [next]) ((a.targets next).foldl Front.meet ⟨rest, found⟩) := by
  obtain ⟨here, order, follows⟩ := before
  simp only at here order follows
  subst here
  have moved : (looked ++ [next]) ++ rest =
      uri :: followed (firstMet (looked.flatMap a.targets)) := by simpa using order
  obtain ⟨found, later⟩ := meetAll moved (a.targets next)
  refine ⟨by simpa using found, by simpa using later, ?_⟩
  intro other member
  rw [later, List.mem_cons, memFollowed] at member
  rcases member with rfl | first
  · exact .start
  · rcases List.mem_append.mp (firstMetMember first) with before | now
    · obtain ⟨here, done, edge⟩ := List.mem_flatMap.mp before
      exact .step (follows here (by simp [done])) edge
    · exact .step (follows next (by simp)) now

def lookedAt (a : Atlas) : Nat → Front → List String
  | 0, _ => []
  | fuel + 1, f =>
    match f.queue with
    | [] => []
    | uri :: rest => uri :: lookedAt a fuel ((a.targets uri).foldl Front.meet ⟨rest, f.found⟩)

theorem searchedRun {a : Atlas} {uri : String} {looked : List String} {f : Front}
    (before : a.Searched uri looked f) (fuel : Nat) :
    a.Searched uri (looked ++ a.lookedAt fuel f) (a.explore fuel f) := by
  induction fuel generalizing looked f with
  | zero => simpa [lookedAt, explore] using before
  | succ fuel ih =>
    obtain ⟨queue, found⟩ := f
    cases queue with
    | nil => simpa [lookedAt, explore] using before
    | cons next rest => simpa [lookedAt, explore] using ih (searchedStep before)

theorem lookedLength (a : Atlas) (fuel : Nat) (f : Front) :
    (a.lookedAt fuel f).length = fuel ∨ (a.explore fuel f).queue = [] := by
  induction fuel generalizing f with
  | zero => exact .inl rfl
  | succ fuel ih =>
    obtain ⟨queue, found⟩ := f
    cases queue with
    | nil => exact .inr rfl
    | cons next rest => simpa [lookedAt, explore] using ih _

theorem exploreFurther {a : Atlas} {fuel : Nat} {f : Front} (done : (a.explore fuel f).queue = [])
    (more : Nat) : a.explore (fuel + more) f = a.explore fuel f := by
  induction fuel generalizing f with
  | zero =>
    obtain ⟨queue, found⟩ := f
    have empty : queue = [] := done
    subst empty
    cases more <;> simp [explore]
  | succ fuel ih =>
    obtain ⟨queue, found⟩ := f
    rw [Nat.add_right_comm]
    cases queue with
    | nil => rfl
    | cons next rest => exact ih done

theorem memEdges {a : Atlas} {t : Target} : t ∈ a.edges ↔ ∃ uri, t ∈ a.targets uri := by
  simp only [edges, List.mem_flatMap, Catalog.values, List.mem_map, memTargets, document?, Catalog.getIff]
  constructor
  · rintro ⟨_, ⟨e, member, rfl⟩, edge⟩
    exact ⟨e.1, e.2, member, edge⟩
  · rintro ⟨uri, d, member, edge⟩
    exact ⟨d, ⟨(uri, d), member, rfl⟩, edge⟩

theorem searchedBound {a : Atlas} {uri : String} {looked : List String} {f : Front}
    (state : a.Searched uri looked f) : (looked ++ f.queue).length ≤ a.edges.length + 1 := by
  rw [state.order, List.length_cons, followed, List.length_map]
  have kept := List.length_filter_le Target.isResolved (firstMet (looked.flatMap a.targets))
  have edges : firstMet (looked.flatMap a.targets) ⊆ a.edges := by
    intro t first
    obtain ⟨here, _, edge⟩ := List.mem_flatMap.mp (firstMetMember first)
    exact memEdges.mpr ⟨here, edge⟩
  have few := ((firstMetDistinct (looked.flatMap a.targets)).of_map _).length_le_of_subset edges
  omega

theorem exploreEnds (a : Atlas) (uri : String) :
    (a.explore (a.edges.length + 1) ⟨[uri], []⟩).queue = [] := by
  have bound := searchedBound (searchedRun (searchedStart a uri) (a.edges.length + 1))
  rcases lookedLength a (a.edges.length + 1) ⟨[uri], []⟩ with long | done
  · simp only [List.nil_append, List.length_append, long] at bound
    exact List.length_eq_zero_iff.mp (by omega)
  · exact done

def looked (a : Atlas) (uri : String) : List String :=
  a.lookedAt (a.edges.length + 1) ⟨[uri], []⟩

theorem searched (a : Atlas) (uri : String) :
    a.Searched uri (a.looked uri) (a.explore (a.edges.length + 1) ⟨[uri], []⟩) := by
  have whole := searchedRun (searchedStart a uri) (a.edges.length + 1)
  rw [List.nil_append] at whole
  exact whole

def PassedOver (a : Atlas) (uri other : String) : Prop :=
  .unresolved other ∈ firstMet ((a.looked uri).flatMap a.targets)

theorem lookedIff {a : Atlas} {uri other : String} :
    other ∈ a.looked uri ↔
      other = uri ∨ .resolved other ∈ firstMet ((a.looked uri).flatMap a.targets) := by
  have order := (searched a uri).order
  rw [exploreEnds, List.append_nil] at order
  rw [order, List.mem_cons, ← order, memFollowed]

theorem memSourced {a : Atlas} {uri other : String} :
    other ∈ a.sourced uri ↔ ∃ here ∈ a.looked uri, ∃ t ∈ a.targets here, t.uri = other := by
  rw [sourced, List.mem_mergeSort, (searched a uri).found, List.mem_map]
  constructor
  · rintro ⟨t, first, rfl⟩
    obtain ⟨here, before, edge⟩ := List.mem_flatMap.mp (firstMetMember first)
    exact ⟨here, before, t, edge, rfl⟩
  · rintro ⟨here, before, t, edge, rfl⟩
    exact firstMetNames (List.mem_flatMap.mpr ⟨here, before, edge⟩)

theorem lookedFollows {a : Atlas} {uri other : String} (member : other ∈ a.looked uri) :
    a.Follows uri other :=
  (searched a uri).follows other (List.mem_append_left _ member)

theorem sourcedReaches {a : Atlas} {uri other : String} (found : other ∈ a.sourced uri) :
    a.Reaches uri other := by
  obtain ⟨here, member, edge⟩ := memSourced.mp found
  exact reachesIff.mpr ⟨here, lookedFollows member, edge⟩

theorem foundIsLookedAt {a : Atlas} {uri other : String} (found : other ∈ a.sourced uri) :
    other ∈ a.looked uri ∨ a.PassedOver uri other := by
  obtain ⟨here, member, t, edge, rfl⟩ := memSourced.mp found
  obtain ⟨first, kept, same⟩ := firstMetNames (List.mem_flatMap.mpr ⟨here, member, edge⟩)
  rw [← same]
  cases first with
  | resolved u => exact .inl (lookedIff.mpr (.inr kept))
  | unresolved u => exact .inr kept

theorem followsLookedAt {a : Atlas} {uri : String}
    (nothingLost : ∀ w, a.Follows uri w → a.PassedOver uri w →
      ∀ t ∈ a.targets w, t.uri ∈ a.sourced uri)
    {other : String} (before : a.Follows uri other) :
    other ∈ a.looked uri ∨ a.PassedOver uri other := by
  induction before with
  | start => exact .inl (lookedIff.mpr (.inl rfl))
  | @step here next before edge ih =>
    apply foundIsLookedAt
    rcases ih with member | passed
    · exact memSourced.mpr ⟨here, member, _, edge, rfl⟩
    · exact nothingLost here before passed _ edge

theorem completeIff {a : Atlas} {uri : String} :
    (∀ other, other ∈ a.sourced uri ↔ a.Reaches uri other) ↔
      ∀ w, a.Follows uri w → a.PassedOver uri w → ∀ t ∈ a.targets w, t.uri ∈ a.sourced uri := by
  constructor
  · intro complete w before _ t edge
    exact (complete t.uri).mpr (reachesIff.mpr ⟨w, before, t, edge, rfl⟩)
  · intro nothingLost other
    refine ⟨sourcedReaches, fun chain => ?_⟩
    obtain ⟨here, before, t, edge, rfl⟩ := reachesIff.mp chain
    rcases followsLookedAt nothingLost before with member | passed
    · exact memSourced.mpr ⟨here, member, t, edge, rfl⟩
    · exact nothingLost here before passed t edge

def Coherent (a : Atlas) : Prop :=
  ∀ uri, .resolved uri ∈ a.edges → .unresolved uri ∉ a.edges

theorem sourcedOfCoherent {a : Atlas} (coherent : a.Coherent) {uri other : String} :
    other ∈ a.sourced uri ↔ a.Reaches uri other := by
  refine completeIff.mpr ?_ other
  intro w before passed t edge
  obtain ⟨here, _, unresolved⟩ := List.mem_flatMap.mp (firstMetMember passed)
  cases before with
  | start => exact memSourced.mpr ⟨uri, lookedIff.mpr (.inl rfl), t, edge, rfl⟩
  | step _ resolved =>
    exact absurd (memEdges.mpr ⟨_, unresolved⟩) (coherent w (memEdges.mpr ⟨_, resolved⟩))

/- The search ends, and what it finds is reached. It finds all that is reached exactly if every
document that it passes over, though resolved targets lead to it, names only what is found anyway.
That is so in every index where no URI is named in both ways. -/
theorem sourcedCompleteness (a : Atlas) (uri : String) :
    (∀ fuel, a.edges.length < fuel →
      (a.explore fuel ⟨[uri], []⟩).queue = [] ∧
      ∀ other, other ∈ (a.explore fuel ⟨[uri], []⟩).found ↔ other ∈ a.sourced uri) ∧
    (∀ other ∈ a.sourced uri, a.Reaches uri other) ∧
    ((∀ other, other ∈ a.sourced uri ↔ a.Reaches uri other) ↔
      ∀ w, a.Follows uri w → a.PassedOver uri w → ∀ t ∈ a.targets w, t.uri ∈ a.sourced uri) ∧
    (a.Coherent → ∀ other, other ∈ a.sourced uri ↔ a.Reaches uri other) := by
  refine ⟨?_, fun _ => sourcedReaches, completeIff, fun coherent _ => sourcedOfCoherent coherent⟩
  intro fuel enough
  have same : a.explore fuel ⟨[uri], []⟩ = a.explore (a.edges.length + 1) ⟨[uri], []⟩ := by
    obtain ⟨more, rfl⟩ := Nat.exists_eq_add_of_lt enough
    rw [Nat.add_right_comm]
    exact exploreFurther (exploreEnds a uri) more
  rw [same]
  exact ⟨exploreEnds a uri, fun other => by rw [sourced, List.mem_mergeSort]⟩

def letterFiles (names : List UInt8) : FileSystem :=
  ⟨.directory (names.map fun n => ([n], .file [])), [], fun _ => 4096⟩

def lateFile : Atlas :=
  History.run History.letterLines (.empty .standard)
    [(letterFiles [0x62], .analyze "file:///a" "source d\nsource b\n"),
      (letterFiles [0x62, 0x64], .analyze "file:///b" "source d\n"),
      (letterFiles [0x62, 0x64], .analyze "file:///d" "source e\n")]

theorem lateFileMissed :
    lateFile.Reaches "file:///a" "file:///e" ∧ "file:///e" ∉ lateFile.sourced "file:///a" := by
  have toB : .resolved "file:///b" ∈ lateFile.targets "file:///a" := by decide +kernel
  have toD : .resolved "file:///d" ∈ lateFile.targets "file:///b" := by decide +kernel
  have toE : .unresolved "file:///e" ∈ lateFile.targets "file:///d" := by decide +kernel
  refine ⟨reachesIff.mpr ⟨"file:///d", .step (.step .start toB) toD, _, toE, rfl⟩, ?_⟩
  rw [sourced, List.mem_mergeSort]
  decide +kernel

end ShellAtlas.Atlas
