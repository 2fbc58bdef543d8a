import ShellAtlas.Proofs.Consistency
import ShellAtlas.Proofs.Point
import ShellAtlas.Proofs.Utf8
/-!
The tokens that read as a word. A walk meets the leaves of a tree from left to right, and an empty leaf
reads as no word. So the places of a word in one document stand apart and in order, and those in all
documents follow the order of the URIs. Each document gives its own part.
-/
namespace ShellAtlas

namespace Location

def Precedes (x y : Location) : Prop :=
  Text.bytes x.uri.toList < Text.bytes y.uri.toList ∨
    x.uri = y.uri ∧ ((compare x.range.start y.range.start).isLT = true ∨
      x.range.start = y.range.start ∧ (compare x.range.stop y.range.stop).isLT = true)

theorem comparedIff {x y : Location} : compare x y = .lt ↔ x.Precedes y := by
  have fields : compare x y = (compare x.uri y.uri).then
      ((compare x.range.start y.range.start).then (compare x.range.stop y.range.stop)) := rfl
  have uris : compare x.uri y.uri = .lt ↔ x.uri < y.uri := compareOfLessAndEq_eq_lt
  rw [fields, Precedes, Text.bytesLT, Ordering.then_eq_lt, Ordering.then_eq_lt, uris, Std.compare_eq_iff_eq,
    Position.comparedSame, Ordering.isLT_iff_eq_lt, Ordering.isLT_iff_eq_lt]

theorem precedesOther {x y : Location} (before : x.Precedes y) : x ≠ y := by
  rintro rfl
  rcases before with less | ⟨_, less | ⟨_, less⟩⟩
  · exact List.lt_irrefl _ less
  · rw [Position.isLTIff] at less
    omega
  · rw [Position.isLTIff] at less
    omega

end Location

namespace Tree

theorem metOfWay {t n : Tree} {earlier : List Tree} (way : Way t earlier n) (above : List Tree) :
    ∃ v ∈ visits above t, v.node = n := by
  induction way generalizing above with
  | here t =>
    rw [visitsNode]
    exact ⟨_, List.mem_cons_self .., rfl⟩
  | @down t c n before after earlier children shown rest ih =>
    obtain ⟨v, met, same⟩ := ih (t :: above)
    rw [visitsNode]
    exact ⟨v, List.mem_cons_of_mem _ (List.mem_flatMap.mpr ⟨c, childVisible children shown, met⟩), same⟩

theorem wayOfMet {t : Tree} {above : List Tree} {v : Visit} (met : v ∈ visits above t) :
    ∃ earlier, Way t earlier v.node := by
  induction t using onChildren generalizing above with
  | step t ih =>
    rw [visitsNode, List.mem_cons, List.mem_flatMap] at met
    rcases met with rfl | ⟨c, child, later⟩
    · exact ⟨[], .here t⟩
    · obtain ⟨member, shown⟩ := List.mem_filter.mp child
      obtain ⟨before, after, children⟩ := List.append_of_mem member
      obtain ⟨earlier, way⟩ := ih c member later
      exact ⟨before ++ earlier, .down children (by simpa using shown) way⟩

def Fits (t : Tree) : Prop :=
  t.label.start ≤ t.label.stop ∧
    (∀ c ∈ t.visible, t.label.start ≤ c.label.start ∧ c.label.stop ≤ t.label.stop) ∧
    t.visible.Pairwise fun a b => a.label.stop ≤ b.label.start
instance (t : Tree) : Decidable t.Fits := by unfold Fits; infer_instance

theorem nestedOfFits (above : List Tree) {t : Tree} (fits : ∀ v ∈ visits above t, v.node.Fits) : t.Nested := by
  induction t using onChildren generalizing above with
  | step t ih =>
    rw [visitsNode] at fits
    obtain ⟨forward, inside, apart⟩ := fits _ (List.mem_cons_self ..)
    refine .intro forward inside apart fun c child => ?_
    refine ih c (List.mem_filter.mp child).1 (t :: above) fun v met => fits v ?_
    exact List.mem_cons_of_mem _ (List.mem_flatMap.mpr ⟨c, child, met⟩)

theorem leavesApart {t : Tree} (nested : t.Nested) (above : List Tree) :
    (visits above t).Pairwise fun v w => v.node.isLeaf = true → w.node.isLeaf = true →
      v.node.label.stop ≤ w.node.label.start := by
  induction nested generalizing above with
  | @intro t forward inside apart below ih =>
    rw [visitsNode]
    refine List.pairwise_cons.mpr ⟨?_, ?_⟩
    · -- A root that is a leaf is all that is met.
      intro w later leaf
      have bare : t.visible = [] := by simpa [isLeaf] using leaf
      simp [bare] at later
    · rw [List.pairwise_flatMap]
      refine ⟨fun c child => ih c child _, apart.imp_of_mem ?_⟩
      intro a b left right before v first w second _ _
      have stops := (visitsInside (below a left) first).2.2
      have starts := (visitsInside (below b right) second).1
      omega

theorem textParts {t : Tree} {source : List Char} (filled : t.text source ≠ []) :
    ∃ before after, source = before ++ t.text source ++ after ∧ Text.byteLength before = t.label.start ∧
      Text.byteLength before + Text.byteLength (t.text source) = t.label.stop := by
  have cut := rangeTextFilled filled
  rw [rangeText] at cut
  exact Text.sliceParts cut

theorem textFilled {t : Tree} {source : List Char} (filled : t.text source ≠ []) :
    t.label.start < t.label.stop := by
  obtain ⟨before, after, _, opening, closing⟩ := textParts filled
  have room := Text.byteLengthPos filled
  omega

theorem rangeFilled {t : Tree} {source : List Char} {word : String} (filled : word ≠ "")
    (reads : Text.trim (t.text source) = word.toList) :
    (compare (t.range source).start (t.range source).stop).isLT = true := by
  have some : t.text source ≠ [] := by
    intro empty
    rw [empty] at reads
    exact filled (String.toList_eq_nil_iff.mp reads.symm)
  exact Position.ofOffsetLT.mpr (textFilled some)

end Tree

namespace Document

def UsedAt (d : Document) (word : String) (r : Range) : Prop :=
  ∃ earlier token, d.tree.Way earlier token ∧ token.isLeaf = true ∧ token.isComment = false ∧
    Text.trim (token.text d.text) = word.toList ∧ token.range d.text = r

end Document

namespace Atlas

theorem isUseIff {source word : List Char} {t : Tree} : isUse source word t = true ↔
    t.isLeaf = true ∧ t.isComment = false ∧ Text.trim (t.text source) = word := by
  simp [isUse, and_assoc]

theorem memOccurrences {a : Atlas} {uri word : String} {l : Location} :
    l ∈ a.occurrences uri word ↔
      word ≠ "" ∧ l.uri = uri ∧ ∃ d, a.document? uri = some d ∧ d.UsedAt word l.range := by
  unfold occurrences
  split
  · simp [*]
  · rename_i filled
    split
    · simp [*]
    · rename_i d entry
      simp only [List.mem_map, List.mem_filter, entry, Option.some.injEq]
      constructor
      · rintro ⟨v, ⟨met, use⟩, rfl⟩
        obtain ⟨leaf, plain, reads⟩ := isUseIff.mp use
        obtain ⟨earlier, way⟩ := Tree.wayOfMet met
        exact ⟨filled, rfl, d, rfl, earlier, v.node, way, leaf, plain, reads, rfl⟩
      · rintro ⟨_, rfl, d, rfl, earlier, token, way, leaf, plain, reads, place⟩
        obtain ⟨v, met, rfl⟩ := Tree.metOfWay way []
        exact ⟨v, ⟨met, isUseIff.mpr ⟨leaf, plain, reads⟩⟩, by rw [place]⟩

theorem memUris {a : Atlas} {uri : String} : uri ∈ a.uris ↔ ∃ d, a.document? uri = some d := by
  simp only [uris, Catalog.keys, document?, Catalog.getIff, List.mem_map]
  constructor
  · rintro ⟨e, member, rfl⟩
    exact ⟨e.2, member⟩
  · rintro ⟨d, member⟩
    exact ⟨_, member, rfl⟩

theorem memReferences {a : Atlas} {word : String} {l : Location} :
    l ∈ a.references word ↔
      word ≠ "" ∧ ∃ d, a.document? l.uri = some d ∧ d.UsedAt word l.range := by
  simp only [references, List.mem_flatMap, memOccurrences]
  constructor
  · rintro ⟨uri, _, filled, rfl, found⟩
    exact ⟨filled, found⟩
  · rintro ⟨filled, d, entry, used⟩
    exact ⟨l.uri, memUris.mpr ⟨d, entry⟩, filled, rfl, d, entry, used⟩

theorem occurrencesApart {a : Atlas} {uri : String}
    (nested : ∀ d, a.document? uri = some d → d.tree.Nested) (word : String) :
    (a.occurrences uri word).Pairwise fun x y =>
      (compare x.range.start x.range.stop).isLT = true ∧
      (compare x.range.stop y.range.start).isLE = true := by
  unfold occurrences
  split
  · exact .nil
  · rename_i filled
    split
    · exact .nil
    · rename_i d entry
      rw [List.pairwise_map, List.pairwise_filter]
      refine (Tree.leavesApart (nested d entry) []).imp ?_
      intro v w apart left right
      have before := apart (isUseIff.mp left).1 (isUseIff.mp right).1
      exact ⟨Tree.rangeFilled filled (isUseIff.mp left).2.2, Position.ofOffsetMono before⟩

theorem occurrenceUri {a : Atlas} {uri word : String} {l : Location} (member : l ∈ a.occurrences uri word) :
    l.uri = uri :=
  (memOccurrences.mp member).2.1

theorem referencesApart {a : Atlas} (nested : ∀ uri d, a.document? uri = some d → d.tree.Nested)
    (word : String) :
    (a.references word).Pairwise fun x y =>
      x.Precedes y ∧ (x.uri = y.uri → (compare x.range.stop y.range.start).isLE = true) := by
  rw [references, List.pairwise_flatMap]
  constructor
  · intro uri _
    refine (occurrencesApart (nested uri) word).imp_of_mem ?_
    intro x y left right apart
    have same : x.uri = y.uri := (occurrenceUri left).trans (occurrenceUri right).symm
    have before : (compare x.range.start y.range.start).isLT = true := by
      rw [Position.isLTIff, Position.isLEIff] at apart
      rw [Position.isLTIff]
      omega
    exact ⟨.inr ⟨same, .inl before⟩, fun _ => apart.2⟩
  · refine (List.pairwise_map.mpr a.documents.ordered : a.uris.Pairwise (· < ·)).imp ?_
    intro u v less x left y right
    have first := occurrenceUri left
    have second := occurrenceUri right
    refine ⟨.inl (Text.bytesLT.mpr (first ▸ second ▸ less)), fun same => ?_⟩
    rw [← first, ← second, same] at less
    exact absurd less (String.lt_irrefl _)

section Parts
variable {α : Type} {part : String → List α} {uriOf : α → String} (own : ∀ uri, ∀ x ∈ part uri, uriOf x = uri)
include own

theorem partsChosen (chosen : String → Bool) (uris : List String) :
    (uris.flatMap part).filter (fun x => chosen (uriOf x)) = (uris.filter chosen).flatMap part := by
  induction uris with
  | nil => rfl
  | cons uri uris ih =>
    rw [List.flatMap_cons, List.filter_append, ih, List.filter_cons]
    have all : (part uri).filter (fun x => chosen (uriOf x)) = if chosen uri then part uri else [] := by
      split
      · rename_i kept
        exact List.filter_eq_self.mpr fun x member => by rw [own uri x member, kept]
      · rename_i left
        exact List.filter_eq_nil_iff.mpr fun x member => by rw [own uri x member]; exact left
    rw [all]
    split <;> simp

theorem partAlone {uris : List String} (apart : uris.Nodup) {uri : String}
    (absent : uri ∉ uris → part uri = []) :
    (uris.flatMap part).filter (fun x => uriOf x = uri) = part uri := by
  have copies : uris.filter (fun u => decide (u = uri)) = List.replicate (uris.count uri) uri :=
    List.filter_eq ..
  rw [partsChosen own (fun u => decide (u = uri)), copies]
  by_cases known : uri ∈ uris
  · rw [List.count_eq_one_of_mem apart known]
    simp
  · rw [List.count_eq_zero.mpr known, absent known]
    rfl

end Parts

theorem unknownDocument {a : Atlas} {uri : String} (unknown : uri ∉ a.uris) : a.document? uri = none := by
  cases entry : a.document? uri with
  | none => rfl
  | some d => exact absurd (memUris.mpr ⟨d, entry⟩) unknown

theorem referencesOf (a : Atlas) (word : String) (chosen : String → Bool) :
    (a.references word).filter (fun l => chosen l.uri) =
      (a.uris.filter chosen).flatMap fun uri => a.occurrences uri word :=
  partsChosen (fun _ _ => occurrenceUri) chosen a.uris

theorem referencesIn (a : Atlas) (word uri : String) :
    (a.references word).filter (fun l => l.uri = uri) = a.occurrences uri word := by
  refine partAlone (fun _ _ => occurrenceUri) a.documents.keysDistinct fun absent => ?_
  simp [occurrences, unknownDocument absent]

theorem referencesSame {a b : Atlas} (chosen : String → Bool)
    (uris : a.uris.filter chosen = b.uris.filter chosen)
    (documents : ∀ uri, chosen uri = true → a.document? uri = b.document? uri) (word : String) :
    (a.references word).filter (fun l => chosen l.uri) = (b.references word).filter (fun l => chosen l.uri) := by
  rw [referencesOf, referencesOf, uris]
  refine List.flatMap_congr fun uri member => ?_
  unfold occurrences
  rw [documents uri (List.mem_filter.mp member).2]

theorem analyzeOthers (a : Atlas) (parse : String → Tree) (fs : FileSystem) (uri content word : String) :
    ((a.analyze parse fs uri content).references word).filter (fun l => l.uri ≠ uri) =
      (a.references word).filter (fun l => l.uri ≠ uri) := by
  refine referencesSame (fun u => decide (u ≠ uri)) (Catalog.keysInsert ..) ?_ word
  intro u other
  rw [analyzeDocument, if_neg (by simpa using other)]

theorem removeOthers (a : Atlas) (uri word : String) :
    ((a.remove uri).references word).filter (fun l => l.uri ≠ uri) =
      (a.references word).filter (fun l => l.uri ≠ uri) := by
  refine referencesSame (fun u => decide (u ≠ uri)) ?_ ?_ word
  · rw [uris, remove, Catalog.keysErase, List.filter_filter]
    simp [uris]
  · intro u other
    rw [remove, document?, Catalog.getErase, if_neg (by simpa using other)]
    rfl

/- The references of a word are the tokens that read as it, each once, in the order of the locations,
and apart in each document. What is analyzed or removed changes the part of its own document. -/
theorem referencesExact {a : Atlas} (nested : ∀ uri d, a.document? uri = some d → d.tree.Nested)
    {word : String} (filled : word ≠ "") :
    ((a.references word).Pairwise fun x y => compare x y = .lt) ∧
    (∀ x y : Location, compare x y = .lt ↔ x.Precedes y) ∧
    (a.references word).Nodup ∧
    ((a.references word).Pairwise fun x y =>
      x.uri = y.uri → (compare x.range.stop y.range.start).isLE = true) ∧
    (∀ l ∈ a.references word, (compare l.range.start l.range.stop).isLT = true) ∧
    (∀ l, l ∈ a.references word ↔ ∃ d, a.document? l.uri = some d ∧ d.UsedAt word l.range) ∧
    (∀ uri, (a.references word).filter (fun l => l.uri = uri) = a.occurrences uri word) ∧
    ∀ uri,
      (∀ parse fs content, ((a.analyze parse fs uri content).references word).filter (fun l => l.uri ≠ uri) =
        (a.references word).filter (fun l => l.uri ≠ uri)) ∧
      ((a.remove uri).references word).filter (fun l => l.uri ≠ uri) =
        (a.references word).filter (fun l => l.uri ≠ uri) := by
  have apart := referencesApart nested word
  refine ⟨apart.imp fun before => Location.comparedIff.mpr before.1, fun _ _ => Location.comparedIff,
    apart.imp fun before => Location.precedesOther before.1, apart.imp fun before => before.2, ?_, ?_,
    referencesIn a word, fun uri => ⟨fun parse fs content => analyzeOthers a parse fs uri content word,
      removeOthers a uri word⟩⟩
  · intro l member
    obtain ⟨_, d, _, earlier, token, _, _, _, reads, place⟩ := memReferences.mp member
    rw [← place]
    exact Tree.rangeFilled filled reads
  · intro l
    rw [memReferences]
    exact ⟨fun found => found.2, fun found => ⟨filled, found⟩⟩

def repeated : Tree :=
  .node ⟨"program", true, false, false, false, "", 0, 3⟩
    [.node ⟨"variable_name", true, false, false, false, "name", 0, 1⟩ [],
      .node ⟨"=", false, false, false, false, "", 1, 2⟩ [],
      .node ⟨"word", true, false, true, false, "", 2, 2⟩ [],
      .node ⟨"word", true, false, false, false, "value", 2, 3⟩ []]

theorem repeatedNested : repeated.Nested :=
  Tree.nestedOfFits [] (by decide)

def repeatedAtlas : Atlas :=
  ((empty .standard).analyze (fun _ => repeated) .empty "file:///b" "x=x").analyze
    (fun _ => repeated) .empty "file:///a" "x=x"

theorem repeatedReferenced :
    repeatedAtlas.references "x" =
      [⟨"file:///a", ⟨0, 0⟩, ⟨0, 1⟩⟩, ⟨"file:///a", ⟨0, 2⟩, ⟨0, 3⟩⟩, ⟨"file:///b", ⟨0, 0⟩, ⟨0, 1⟩⟩,
        ⟨"file:///b", ⟨0, 2⟩, ⟨0, 3⟩⟩] ∧
    ((repeatedAtlas.references "x").Pairwise fun x y => compare x y = .lt) ∧
    (repeatedAtlas.references "x").filter (fun l => l.uri = "file:///b") =
      repeatedAtlas.occurrences "file:///b" "x" := by
  have nested : ∀ uri d, repeatedAtlas.document? uri = some d → d.tree.Nested := by
    intro uri d entry
    rw [repeatedAtlas, analyzeDocument, analyzeDocument] at entry
    split at entry
    · cases Option.some.inj entry
      exact repeatedNested
    · split at entry
      · cases Option.some.inj entry
        exact repeatedNested
      · contradiction
  have filled : "x" ≠ "" := by decide
  obtain ⟨ordered, _, _, _, _, _, parts, _⟩ := referencesExact nested filled
  exact ⟨by decide +kernel, ordered, parts _⟩

end Atlas

end ShellAtlas
