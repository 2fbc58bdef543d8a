import ShellAtlas.Proofs.Consistency
import ShellAtlas.Proofs.Point
import ShellAtlas.Tree.Cursor
/-!
The order of a walk. The loop of a cursor ends, and the nodes that it hands out are those of the recursive
walk: each node that can be reached from the root through visible children, once, before its descendants, and
all of them before whatever stands below a later child.
-/
namespace ShellAtlas

namespace Visit

def at? (v : Visit) : List Nat → Option Visit
  | [] => some v
  | i :: way => v.node.visible[i]?.bind fun c => at? ⟨v.node :: v.above, c⟩ way

inductive Precedes : List Nat → List Nat → Prop where
  | descendant (way : List Nat) (i : Nat) (below : List Nat) : Precedes way (way ++ i :: below)
  | later (way : List Nat) {i j : Nat} (less : i < j) (left right : List Nat) :
      Precedes (way ++ i :: left) (way ++ j :: right)

theorem precedesApart {left right : List Nat} (before : Precedes left right) : left ≠ right := by
  cases before with
  | descendant way i below =>
    intro same
    have length := congrArg List.length same
    rw [List.length_append, List.length_cons] at length
    omega
  | later way less left right =>
    intro same
    have first := (List.cons.inj (List.append_cancel_left same)).1
    omega

theorem precedesUnder (k : Nat) {left right : List Nat} (before : Precedes left right) :
    Precedes (k :: left) (k :: right) := by
  cases before with
  | descendant _ i below => exact .descendant (k :: left) i below
  | later way less front back => exact .later (k :: way) less front back

end Visit

namespace Tree

mutual

def ways : Tree → List (List Nat)
  | .node _ cs => [] :: waysFrom 0 cs

def waysFrom (i : Nat) : List Tree → List (List Nat)
  | [] => []
  | c :: cs => if c.label.hidden then waysFrom i cs else c.ways.map (i :: ·) ++ waysFrom (i + 1) cs

end

theorem waysFromVisible (i : Nat) (cs : List Tree) :
    waysFrom i cs =
      ((cs.filter fun c => !c.label.hidden).zipIdx i).flatMap fun e => e.1.ways.map (e.2 :: ·) := by
  induction cs generalizing i with
  | nil => rfl
  | cons c cs ih =>
    rw [waysFrom]
    split
    · rename_i hidden
      rw [ih, List.filter_cons_of_neg (by simp [hidden])]
    · rename_i shown
      rw [ih, List.filter_cons_of_pos (by simpa using shown), List.zipIdx_cons, List.flatMap_cons]

theorem waysNode (t : Tree) :
    t.ways = [] :: t.visible.zipIdx.flatMap fun e => e.1.ways.map (e.2 :: ·) := by
  cases t with
  | node l cs =>
    rw [ways, waysFromVisible]
    rfl

theorem numberedChild {t c : Tree} {i : Nat} (child : (c, i) ∈ t.visible.zipIdx) :
    t.visible[i]? = some c ∧ c ∈ t.children := by
  have found := List.mem_zipIdx_iff_getElem?.mp child
  exact ⟨found, List.mem_of_mem_filter (List.mem_of_getElem? found)⟩

theorem visitsWays (t : Tree) (above : List Tree) :
    (visits above t).map some = t.ways.map (Visit.at? ⟨above, t⟩) := by
  induction t using onChildren generalizing above with
  | step t ih =>
    rw [visitsNode, waysNode, List.map_cons, List.map_cons, List.map_flatMap, List.map_flatMap]
    congr 1
    conv_lhs => rw [← List.zipIdx_map_fst 0 t.visible, List.flatMap_map]
    refine List.flatMap_congr fun e child => ?_
    obtain ⟨found, member⟩ := numberedChild child
    rw [ih e.1 member, List.map_map]
    refine List.map_congr_left fun way _ => ?_
    rw [Function.comp_apply, Visit.at?, found, Option.bind_some]

theorem memWays {t : Tree} {above : List Tree} {way : List Nat} :
    way ∈ t.ways ↔ (Visit.at? ⟨above, t⟩ way).isSome = true := by
  induction t using onChildren generalizing above way with
  | step t ih =>
    rw [waysNode, List.mem_cons, List.mem_flatMap]
    cases way with
    | nil => simp [Visit.at?]
    | cons i way =>
      rw [Visit.at?]
      constructor
      · rintro (empty | ⟨e, child, inside⟩)
        · contradiction
        · obtain ⟨found, member⟩ := numberedChild child
          obtain ⟨rest, deeper, same⟩ := List.mem_map.mp inside
          obtain ⟨rfl, rfl⟩ := List.cons.inj same
          rw [found, Option.bind_some]
          exact (ih e.1 member).mp deeper
      · intro reached
        obtain ⟨v, there⟩ := Option.isSome_iff_exists.mp reached
        obtain ⟨c, found, rest⟩ := Option.bind_eq_some_iff.mp there
        have child : (c, i) ∈ t.visible.zipIdx := List.mem_zipIdx_iff_getElem?.mpr found
        have deeper : way ∈ c.ways := (ih c (numberedChild child).2).mpr (Option.isSome_iff_exists.mpr ⟨v, rest⟩)
        exact .inr ⟨(c, i), child, List.mem_map.mpr ⟨way, deeper, rfl⟩⟩

theorem numbersAscend (cs : List Tree) (k : Nat) : (cs.zipIdx k).Pairwise fun a b => a.2 < b.2 := by
  induction cs generalizing k with
  | nil => exact .nil
  | cons c cs ih => exact List.pairwise_cons.mpr ⟨fun e later => List.le_snd_of_mem_zipIdx later, ih (k + 1)⟩

theorem waysPrecede (t : Tree) : t.ways.Pairwise Visit.Precedes := by
  induction t using onChildren with
  | step t ih =>
    rw [waysNode, List.pairwise_cons, List.pairwise_flatMap]
    refine ⟨fun way member => ?_, fun e child => ?_, (numbersAscend t.visible 0).imp ?_⟩
    · obtain ⟨e, _, inside⟩ := List.mem_flatMap.mp member
      obtain ⟨rest, _, rfl⟩ := List.mem_map.mp inside
      exact .descendant [] e.2 rest
    · exact List.pairwise_map.mpr ((ih e.1 (numberedChild child).2).imp (Visit.precedesUnder e.2))
    · intro e f less left first right second
      obtain ⟨front, _, rfl⟩ := List.mem_map.mp first
      obtain ⟨back, _, rfl⟩ := List.mem_map.mp second
      exact .later [] less front back

end Tree

namespace Cursor

def pending (outside : List Tree) : List Branch → List Visit
  | [] => []
  | b :: rest =>
    b.later.flatMap (Tree.visits (b.parent :: (rest.map Branch.parent ++ outside))) ++ pending outside rest

def ahead (c : Cursor) : List Visit :=
  Tree.visits c.above c.node ++ pending c.outside c.branches

theorem climbAhead (outside : List Tree) (branches : List Branch) (node : Tree) :
    pending outside branches = (climb? ⟨outside, branches, node⟩).elim [] ahead := by
  induction branches generalizing node with
  | nil => rw [climb?]; rfl
  | cons b rest ih =>
    obtain ⟨parent, later⟩ := b
    rw [climb?]
    cases later with
    | nil => exact ih parent
    | cons next later =>
      rw [pending, List.flatMap_cons, List.append_assoc]
      rfl

theorem nextAhead (c : Cursor) : c.ahead = c.visit :: c.next?.elim [] ahead := by
  rw [ahead, Tree.visitsNode, List.cons_append]
  congr 1
  unfold next? firstChild?
  cases children : c.node.visible with
  | nil => exact climbAhead c.outside c.branches c.node
  | cons child later =>
    rw [List.flatMap_cons, List.append_assoc]
    rfl

theorem afterAhead (c : Cursor) (i : Nat) : (c.after i).map visit = c.ahead[i]? := by
  induction i generalizing c with
  | zero => rw [nextAhead]; rfl
  | succ i ih =>
    rw [nextAhead, List.getElem?_cons_succ, after]
    cases c.next? with
    | none => rfl
    | some next => exact ih next

end Cursor

/- The loop of a cursor visits the nodes below its root, by their ways: its rounds follow a list of ways and end
with it, the list is in order and without repeats, and it holds the way to each visible node and no other. The
recursive walk hands out the same nodes. -/
theorem cursorPreorder (root : Visit) :
    ∃ ways : List (List Nat),
      (∀ i, ((Cursor.atRoot root).after i).map Cursor.visit = ways[i]?.bind root.at?) ∧
      (Cursor.atRoot root).after ways.length = none ∧
      ways.Pairwise Visit.Precedes ∧ ways.Nodup ∧ (∀ way, way ∈ ways ↔ (root.at? way).isSome = true) ∧
      (Tree.visits root.above root.node).map some = ways.map root.at? := by
  have whole : (Cursor.atRoot root).ahead = Tree.visits root.above root.node := List.append_nil _
  have order := Tree.waysPrecede root.node
  have along := Tree.visitsWays root.node root.above
  have rounds : ∀ i, ((Cursor.atRoot root).after i).map Cursor.visit = root.node.ways[i]?.bind root.at? := by
    intro i
    have number := congrArg (·[i]?) along
    simp only [List.getElem?_map] at number
    rw [Cursor.afterAhead, whole]
    cases visited : (Tree.visits root.above root.node)[i]? <;> cases way : root.node.ways[i]? <;>
      simp_all
  refine ⟨root.node.ways, rounds, ?_, order, order.imp Visit.precedesApart, fun way => Tree.memWays, along⟩
  have ended := rounds root.node.ways.length
  rw [List.getElem?_eq_none (Nat.le_refl _), Option.bind_none] at ended
  exact Option.map_eq_none_iff.mp ended

end ShellAtlas
