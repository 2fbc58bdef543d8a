import Mathlib.Data.List.Flatten
import Mathlib.Data.List.Sort
import ShellAtlas.Proofs.Reference
/-!
What a search for names lists. Of the symbols with one name and place the first is listed. A test of the
name takes all of these or none, so it may be made before or after the repeats are dropped, and a longer
word gives a part of what a shorter one gives. Symbols carry the URI of their document, so no symbol of
one document repeats one of another: every document gives its own part of a listing, and who asks only
decides which part comes first.
-/
namespace ShellAtlas.Atlas

theorem distinctSeen {seen known : List (String × Location)} {symbols : List DeclaredSymbol}
    (same : ∀ s ∈ symbols, (s.name, s.location) ∈ seen ↔ (s.name, s.location) ∈ known) :
    distinct seen symbols = distinct known symbols := by
  induction symbols generalizing seen known with
  | nil => rfl
  | cons s rest ih =>
    have first := same s (List.mem_cons_self ..)
    have later : ∀ t ∈ rest, (t.name, t.location) ∈ seen ↔ (t.name, t.location) ∈ known :=
      fun t member => same t (List.mem_cons_of_mem _ member)
    simp only [distinct, List.contains_iff_mem, first]
    split
    · exact ih later
    · refine congrArg (s :: ·) (ih fun t member => ?_)
      rw [List.mem_cons, List.mem_cons, later t member]

theorem distinctAppend (seen : List (String × Location)) (left right : List DeclaredSymbol) :
    distinct seen (left ++ right) =
      distinct seen left ++ distinct (left.map (fun s => (s.name, s.location)) ++ seen) right := by
  induction left generalizing seen with
  | nil => rfl
  | cons s rest ih =>
    simp only [List.cons_append, distinct, List.map_cons]
    split
    · rename_i known
      rw [ih]
      refine congrArg _ (distinctSeen fun t _ => ?_)
      have inside : (s.name, s.location) ∈ seen := List.contains_iff_mem.mp known
      simp only [List.mem_append, List.mem_cons]
      constructor
      · exact .inr
      · intro either
        rcases either with same | found
        · exact .inr (same ▸ inside)
        · exact found
    · rw [ih, List.cons_append]
      refine congrArg _ (congrArg _ (distinctSeen fun t _ => ?_))
      simp only [List.mem_append, List.mem_cons]
      exact or_left_comm

theorem distinctOnce (seen : List (String × Location)) (symbols : List DeclaredSymbol) :
    ((distinct seen symbols).map fun s => (s.name, s.location)).Nodup := by
  induction symbols generalizing seen with
  | nil => exact .nil
  | cons s rest ih =>
    simp only [distinct]
    split
    · exact ih seen
    · rw [List.map_cons, List.nodup_cons]
      refine ⟨fun repeats => ?_, ih _⟩
      have fresh := (distinctKeys.mp (List.mem_map.mp repeats)).1
      exact fresh (List.mem_cons_self ..)

theorem distinctInOrder (seen : List (String × Location)) (symbols : List DeclaredSymbol) :
    (distinct seen symbols).Sublist symbols := by
  induction symbols generalizing seen with
  | nil => exact .slnil
  | cons s rest ih =>
    simp only [distinct]
    split
    · exact (ih seen).cons s
    · exact (ih _).cons_cons s

theorem distinctFilter (chosen : String → Bool) (seen : List (String × Location))
    (symbols : List DeclaredSymbol) :
    (distinct seen symbols).filter (fun s => chosen s.name) =
      distinct seen (symbols.filter fun s => chosen s.name) := by
  induction symbols generalizing seen with
  | nil => rfl
  | cons s rest ih =>
    by_cases taken : chosen s.name = true
    · simp only [List.filter_cons, taken, if_true, distinct]
      split
      · exact ih seen
      · rw [List.filter_cons, if_pos taken, ih]
    · simp only [List.filter_cons, taken, distinct]
      split
      · exact ih seen
      · -- The name is noted as seen, but no symbol that is taken has it.
        rw [List.filter_cons, if_neg taken, ih]
        refine distinctSeen fun t member => ?_
        have other : t.name ≠ s.name := by
          intro same
          rw [List.mem_filter, same] at member
          exact taken member.2
        simp [other]

theorem matchingFilter (a : Atlas) (uri : String) {short long : String} {loose strict : Bool}
    (chosen : String → Bool)
    (fits : ∀ s, isNamed long strict s = (chosen s.name && isNamed short loose s)) :
    a.matching long uri strict = (a.matching short uri loose).filter (fun s => chosen s.name) := by
  have each : ∀ v, a.namedIn long strict v = (a.namedIn short loose v).filter (fun s => chosen s.name) := by
    intro v
    unfold namedIn
    cases a.document? v with
    | none => rfl
    | some d =>
      rw [List.filter_filter]
      exact List.filter_congr fun s _ => fits s
  rw [matchingEq, matchingEq, List.filter_map]
  refine congrArg _ ?_
  calc distinct [] ((a.visibleFrom uri).flatMap (a.namedIn long strict))
      = distinct [] (((a.visibleFrom uri).flatMap (a.namedIn short loose)).filter fun s => chosen s.name) := by
        rw [List.filter_flatMap]
        exact congrArg _ (List.flatMap_congr fun v _ => each v)
    _ = _ := (distinctFilter chosen [] _).symm

theorem matchingOnce (a : Atlas) (word uri : String) (exact : Bool) :
    ((a.matching word uri exact).map fun s => (s.name, s.location)).Nodup := by
  rw [matchingEq, List.map_map]
  exact distinctOnce [] _

def Sees (a : Atlas) (uri other : String) : Prop :=
  other = uri ∨ (a.settings.importsOnly = true → other ∈ a.sourced uri)

theorem visibleDocument {a : Atlas} {uri other : String} {d : Document} (entry : a.document? other = some d) :
    other ∈ a.visibleFrom uri ↔ a.Sees uri other := by
  have known : other ∈ a.uris := memUris.mpr ⟨d, entry⟩
  unfold visibleFrom Sees
  by_cases same : other = uri
  · simp [same]
  · cases a.settings.importsOnly <;> simp [same, known]

/- A longer word finds those of a shorter one's symbols that begin with it, and a whole word those that
are it. Each name and place is listed once, and listed are those that a visible document declares. -/
theorem searchNarrows (a : Atlas) (uri : String) :
    (∀ short long : String, short.toList <+: long.toList →
      a.matching long uri false =
        (a.matching short uri false).filter fun s => long.toList.isPrefixOf s.name.toList) ∧
    (∀ word, a.matching word uri true = (a.matching word uri false).filter fun s => s.name = word) ∧
    ∀ word exact,
      ((a.matching word uri exact).map fun s => (s.name, s.location)).Nodup ∧
      ∀ name place, (name, place) ∈ (a.matching word uri exact).map (fun s => (s.name, s.location)) ↔
        Matches word exact name ∧ ∃ v d, a.document? v = some d ∧ a.Sees uri v ∧
          ∃ s ∈ d.symbols, s.name = name ∧ s.location = place := by
  refine ⟨?_, ?_, fun word exact => ⟨matchingOnce a word uri exact, ?_⟩⟩
  · intro short long leads
    refine matchingFilter a uri (fun name => long.toList.isPrefixOf name.toList) fun s => ?_
    rw [Bool.eq_iff_iff, Bool.and_eq_true, namedIff, namedIff, List.isPrefixOf_iff_prefix]
    exact ⟨fun named => ⟨named, leads.trans named⟩, And.left⟩
  · intro word
    refine matchingFilter a uri (fun name => decide (name = word)) fun s => ?_
    rw [Bool.eq_iff_iff, Bool.and_eq_true, namedIff, namedIff, decide_eq_true_eq]
    exact ⟨fun same => ⟨same, same ▸ List.prefix_refl _⟩, And.left⟩
  · intro name place
    simp only [List.mem_map, Prod.mk.injEq]
    rw [matchingIff]
    refine and_congr_right fun _ => ⟨?_, ?_⟩
    · intro found
      obtain ⟨v, visible, d, entry, declared⟩ := found
      exact ⟨v, d, entry, (visibleDocument entry).mp visible, declared⟩
    · intro found
      obtain ⟨v, d, entry, seen, declared⟩ := found
      exact ⟨v, (visibleDocument entry).mpr seen, d, entry, declared⟩

def assignment (start length : Nat) : Tree :=
  .node ⟨"variable_assignment", true, false, false, false, "", start, start + length + 2⟩
    [.node ⟨"variable_name", true, false, false, false, "name", start, start + length⟩ []]

def assigned (text : String) : Tree :=
  .node ⟨"program", true, false, false, false, "", 0, text.length⟩
    (if text = "ab=1\nabc=2\nab=3\n" then [assignment 0 2, assignment 5 3, assignment 11 2]
    else [assignment 0 3])

def assignedSteps : List (FileSystem × History.Step) :=
  [(.empty, .analyze "file:///b" "abd=1\n"),
    (.empty, .analyze "file:///a" "ab=1\nabc=2\nab=3\n")]

def assignedAtlas : Atlas :=
  History.run assigned (.empty .standard) assignedSteps

theorem assignedNarrows :
    (assignedAtlas.matching "ab" "file:///b" false).map (·.name) = ["abd", "ab", "abc", "ab"] ∧
    assignedAtlas.matching "abc" "file:///b" false =
      (assignedAtlas.matching "ab" "file:///b" false).filter
        (fun s => "abc".toList.isPrefixOf s.name.toList) := by
  have leads : "ab".toList <+: "abc".toList := by decide
  exact ⟨by decide +kernel, (searchNarrows assignedAtlas "file:///b").1 "ab" "abc" leads⟩

def Owned (a : Atlas) : Prop :=
  ∀ uri d, a.document? uri = some d → ∀ s ∈ d.symbols, s.uri = uri

theorem runOwned (parse : String → Tree) (settings : Settings) (events : List (FileSystem × History.Step)) :
    (History.run parse (.empty settings) events).Owned := by
  intro uri d entry s member
  obtain ⟨fs, content, rfl⟩ := History.runOrigin entry
  obtain ⟨v, _, found⟩ := List.mem_filterMap.mp member
  exact (symbolFrom found).1

def listedIn (a : Atlas) (word : String) (exact : Bool) (uri : String) : List SymbolInformation :=
  (distinct [] (a.namedIn word exact uri)).map (·.information)

structure Lists (a : Atlas) (word : String) (exact : Bool) (uri : String) (part : List SymbolInformation) :
    Prop where
  inOrder : part.Sublist (a.symbolsOf uri)
  named : ∀ s ∈ part, Matches word exact s.name
  owned : ∀ s ∈ part, s.location.uri = uri
  every : ∀ s ∈ a.symbolsOf uri, Matches word exact s.name →
    ∃ t ∈ part, t.name = s.name ∧ t.location = s.location

theorem listedUnknown {a : Atlas} {uri : String} (unknown : uri ∉ a.uris) (word : String) (exact : Bool) :
    a.listedIn word exact uri = [] := by
  rw [listedIn, namedIn, unknownDocument unknown]
  rfl

theorem listedKnown (a : Atlas) (word : String) (exact : Bool) (uris : List String) :
    (uris.filter (· ∈ a.uris)).flatMap (a.listedIn word exact) = uris.flatMap (a.listedIn word exact) := by
  induction uris with
  | nil => rfl
  | cons uri rest ih =>
    by_cases known : uri ∈ a.uris
    · rw [List.filter_cons_of_pos (by simpa using known), List.flatMap_cons, List.flatMap_cons, ih]
    · rw [List.filter_cons_of_neg (by simpa using known), List.flatMap_cons, listedUnknown known, ih,
        List.nil_append]

section Owned
variable {a : Atlas} (owned : a.Owned) (word : String) (exact : Bool)
include owned

theorem namedOwned {uri : String} {s : DeclaredSymbol} (member : s ∈ a.namedIn word exact uri) :
    s.uri = uri := by
  obtain ⟨d, entry, declared, _⟩ := memNamedIn.mp member
  exact owned uri d entry s declared

theorem listedLists (uri : String) : a.Lists word exact uri (a.listedIn word exact uri) := by
  have kept := distinctInOrder [] (a.namedIn word exact uri)
  refine ⟨?_, ?_, ?_, ?_⟩
  · have inside : ((a.namedIn word exact uri).map (·.information)).Sublist (a.symbolsOf uri) := by
      unfold namedIn symbolsOf
      cases a.document? uri with
      | none => exact .slnil
      | some d => exact List.filter_sublist.map _
    exact (kept.map _).trans inside
  · intro i listed
    obtain ⟨s, member, rfl⟩ := List.mem_map.mp listed
    obtain ⟨_, _, _, named⟩ := memNamedIn.mp (kept.subset member)
    exact named
  · intro i listed
    obtain ⟨s, member, rfl⟩ := List.mem_map.mp listed
    exact namedOwned owned word exact (kept.subset member)
  · intro i declared named
    unfold symbolsOf at declared
    split at declared
    · rename_i d entry
      obtain ⟨s, member, rfl⟩ := List.mem_map.mp declared
      have found : s ∈ a.namedIn word exact uri := memNamedIn.mpr ⟨d, entry, member, named⟩
      obtain ⟨t, first, same⟩ := distinctKeys.mpr ⟨List.not_mem_nil, s, found, rfl⟩
      exact ⟨t.information, List.mem_map.mpr ⟨t, first, rfl⟩, congrArg Prod.fst same, congrArg Prod.snd same⟩
    · contradiction

theorem distinctParts {uris : List String} (apart : uris.Nodup) :
    distinct [] (uris.flatMap (a.namedIn word exact)) =
      uris.flatMap fun uri => distinct [] (a.namedIn word exact uri) := by
  induction uris with
  | nil => rfl
  | cons uri rest ih =>
    obtain ⟨absent, later⟩ := List.nodup_cons.mp apart
    rw [List.flatMap_cons, List.flatMap_cons, distinctAppend, ← ih later, List.append_nil]
    refine congrArg _ (distinctSeen fun t member => ?_)
    obtain ⟨other, inside, second⟩ := List.mem_flatMap.mp member
    simp only [List.mem_map, List.not_mem_nil, iff_false, not_exists, not_and]
    intro s first same
    have uris : s.uri = t.uri := congrArg (fun key => key.2.uri) same
    rw [namedOwned owned word exact first, namedOwned owned word exact second] at uris
    exact absent (uris ▸ inside)

theorem matchingParts {uri : String} (apart : (a.visibleFrom uri).Nodup) :
    a.matching word uri exact = (a.visibleFrom uri).flatMap (a.listedIn word exact) := by
  rw [matchingEq, distinctParts owned word exact apart, List.map_flatMap]
  rfl

end Owned

theorem urisDistinct (a : Atlas) : a.uris.Nodup :=
  a.documents.keysDistinct

theorem urisOrdered (a : Atlas) : a.uris.Pairwise (· < ·) :=
  List.pairwise_map.mpr a.documents.ordered

theorem sourcedOrdered (a : Atlas) (uri : String) : (a.sourced uri).Pairwise (· < ·) := by
  have once : (a.sourced uri).Nodup := by
    rw [sourced, (List.mergeSort_perm _ _).nodup_iff, (searched a uri).found]
    exact firstMetDistinct _
  have ordered : (a.sourced uri).Pairwise fun x y => (compare x y).isLE = true := by
    refine List.pairwise_mergeSort (fun _ _ _ => Std.TransCmp.isLE_trans) ?_ _
    intro x y
    have turned : compare y x = (compare x y).swap := Std.OrientedOrd.eq_swap
    rw [turned]
    cases compare x y <;> rfl
  refine (ordered.and once).imp ?_
  intro x y pair
  rcases Ordering.isLE_iff_eq_lt_or_eq_eq.mp pair.1 with less | same
  · exact compareOfLessAndEq_eq_lt.mp less
  · exact absurd (Std.compare_eq_iff_eq.mp same) pair.2

theorem visibleDistinct (a : Atlas) (uri : String) : (a.visibleFrom uri).Nodup := by
  have apart : (if a.settings.importsOnly then a.sourced uri else a.uris).Nodup := by
    split
    · exact (sourcedOrdered a uri).imp String.ne_of_lt
    · exact urisDistinct a
  exact List.nodup_cons.mpr ⟨by simp, apart.filter _⟩

section Wide
variable {a : Atlas} (owned : a.Owned) (wide : a.settings.importsOnly = false) (word : String) (exact : Bool)
include owned wide

theorem wideParts (uri : String) :
    a.matching word uri exact =
      a.listedIn word exact uri ++ (a.uris.filter (· ≠ uri)).flatMap (a.listedIn word exact) := by
  rw [matchingParts owned word exact (visibleDistinct a uri), visibleFrom, wide, List.flatMap_cons]
  rfl

theorem widePerm (uri : String) :
    (a.matching word uri exact).Perm (a.uris.flatMap (a.listedIn word exact)) := by
  rw [wideParts owned wide]
  by_cases known : uri ∈ a.uris
  · have others : a.uris.erase uri = a.uris.filter (· ≠ uri) := by
      rw [(urisDistinct a).erase_eq_filter]
      exact List.filter_congr fun other _ => by rw [Bool.eq_iff_iff]; simp
    have moved := List.perm_cons_erase known
    rw [others] at moved
    exact (moved.flatMap_right _).symm
  · have all : a.uris.filter (· ≠ uri) = a.uris := by
      refine List.filter_eq_self.mpr fun other member => ?_
      have different : other ≠ uri := fun same => known (same ▸ member)
      simpa using different
    rw [listedUnknown known, all, List.nil_append]

end Wide

section Others
variable {a : Atlas} (owned : a.Owned) (word : String) (exact : Bool) (uri : String)
include owned

theorem otherUri {s : SymbolInformation}
    (member : s ∈ (a.uris.filter (· ≠ uri)).flatMap (a.listedIn word exact)) : s.location.uri ≠ uri := by
  obtain ⟨other, kept, listed⟩ := List.mem_flatMap.mp member
  rw [(listedLists owned word exact other).owned s listed]
  simpa using (List.mem_filter.mp kept).2

theorem otherLists {other : String} (different : other ≠ uri) :
    a.Lists word exact other
      (((a.uris.filter (· ≠ uri)).flatMap (a.listedIn word exact)).filter fun s => s.location.uri = other) := by
  have own : ∀ u, ∀ s ∈ a.listedIn word exact u, s.location.uri = u :=
    fun u => (listedLists owned word exact u).owned
  have absent : other ∉ a.uris.filter (· ≠ uri) → a.listedIn word exact other = [] := by
    intro missing
    refine listedUnknown (fun known => missing ?_) word exact
    exact List.mem_filter.mpr ⟨known, by simpa using different⟩
  rw [partAlone own ((urisDistinct a).filter _) absent]
  exact listedLists owned word exact other

theorem othersOrdered :
    ((a.uris.filter (· ≠ uri)).flatMap (a.listedIn word exact)).Pairwise fun s t =>
      s.location.uri = t.location.uri ∨
        Text.bytes s.location.uri.toList < Text.bytes t.location.uri.toList := by
  have own : ∀ u, ∀ s ∈ a.listedIn word exact u, s.location.uri = u :=
    fun u => (listedLists owned word exact u).owned
  rw [List.pairwise_flatMap]
  constructor
  · intro u _
    apply List.pairwise_of_forall_mem_list
    intro s first t second
    exact .inl ((own u s first).trans (own u t second).symm)
  · refine ((urisOrdered a).filter _).imp ?_
    intro x y less s first t second
    rw [own x s first, own y t second]
    exact .inr (Text.bytesLT.mpr less)

end Others

theorem limitedSublist {a b : Atlas} (owned : a.Owned) (wide : a.settings.importsOnly = false)
    (same : b.documents = a.documents) (limited : b.settings.importsOnly = true) (word : String) (exact : Bool)
    (uri : String) : (b.matching word uri exact).Sublist (a.matching word uri exact) := by
  have documents : b.document? = a.document? := by
    funext key
    rw [document?, same]
    rfl
  have parts : b.listedIn word exact = a.listedIn word exact := by
    funext key
    rw [listedIn, namedIn, documents]
    rfl
  have owns : b.Owned := by
    rw [Owned, documents]
    exact owned
  have inside : ((b.sourced uri).filter (· ≠ uri)).filter (· ∈ a.uris) ⊆ a.uris.filter (· ≠ uri) := by
    intro other member
    simp only [List.mem_filter, decide_eq_true_eq] at member ⊢
    exact ⟨member.2, member.1.2⟩
  have ordered := ((sourcedOrdered b uri).filter (· ≠ uri)).filter (· ∈ a.uris)
  have kept := List.sublist_of_subperm_of_pairwise
    (List.subperm_of_subset (ordered.imp String.ne_of_lt) inside) ordered ((urisOrdered a).filter _)
  rw [wideParts owned wide, matchingParts owns word exact (visibleDistinct b uri), visibleFrom, limited,
    List.flatMap_cons, parts, if_pos rfl, ← listedKnown]
  exact (List.Sublist.refl _).append (kept.flatMap _)

/- Who asks decides which document comes first and nothing else, and a limited search leaves out
documents and nothing else. -/
theorem requesterOrders (parse : String → Tree) (settings : Settings) (wide : settings.importsOnly = false)
    (events : List (FileSystem × History.Step)) (a : Atlas)
    (reached : a = History.run parse (.empty settings) events) (word : String) (exact : Bool) (u v : String) :
    (a.matching word u exact).Perm (a.matching word v exact) ∧
    (∃ own others, a.matching word u exact = own ++ others ∧ a.Lists word exact u own ∧
      (∀ s ∈ others, s.location.uri ≠ u) ∧
      (∀ w, w ≠ u → a.Lists word exact w (others.filter fun s => s.location.uri = w)) ∧
      others.Pairwise fun s t => s.location.uri = t.location.uri ∨
        Text.bytes s.location.uri.toList < Text.bytes t.location.uri.toList) ∧
    ∀ b : Atlas, b.documents = a.documents → b.settings.importsOnly = true →
      (b.matching word u exact).Sublist (a.matching word u exact) := by
  have owned : a.Owned := reached ▸ runOwned parse settings events
  have whole : a.settings.importsOnly = false := by
    rw [reached, History.runSettings]
    exact wide
  exact ⟨(widePerm owned whole word exact u).trans (widePerm owned whole word exact v).symm,
    ⟨a.listedIn word exact u, _, wideParts owned whole word exact u, listedLists owned word exact u,
      fun _ => otherUri owned word exact u, fun _ => otherLists owned word exact u,
      othersOrdered owned word exact u⟩,
    fun b same limited => limitedSublist owned whole same limited word exact u⟩

theorem assignedOrders :
    (assignedAtlas.matching "ab" "file:///a" false).map (·.name) = ["ab", "abc", "ab", "abd"] ∧
    (assignedAtlas.matching "ab" "file:///b" false).map (·.name) = ["abd", "ab", "abc", "ab"] ∧
    (assignedAtlas.matching "ab" "file:///a" false).Perm (assignedAtlas.matching "ab" "file:///b" false) ∧
    (Atlas.matching ⟨importing, assignedAtlas.documents⟩ "ab" "file:///a" false).Sublist
      (assignedAtlas.matching "ab" "file:///a" false) := by
  obtain ⟨moved, _, limited⟩ := requesterOrders assigned .standard rfl assignedSteps assignedAtlas rfl
    "ab" false "file:///a" "file:///b"
  exact ⟨by decide +kernel, by decide +kernel, moved, limited _ rfl rfl⟩

end ShellAtlas.Atlas
