import ShellAtlas.Tree.Node
/-!
A walk as a loop. A cursor stands on a node and moves in single steps: to the first child, to the next
sibling, to the parent. The node that it starts from is its root, and it does not leave it: for the
cursor the root has neither siblings nor a parent.
-/
namespace ShellAtlas

structure Branch where
  parent : Tree
  later : List Tree

/-- A place below a root. The branches lead from the node up to the root; the ancestors of the root
are known and cannot be entered. -/
structure Cursor where
  outside : List Tree
  branches : List Branch
  node : Tree

namespace Cursor

def atRoot (root : Visit) : Cursor :=
  ⟨root.above, [], root.node⟩

def above (c : Cursor) : List Tree :=
  c.branches.map Branch.parent ++ c.outside

def visit (c : Cursor) : Visit :=
  ⟨c.above, c.node⟩

def firstChild? (c : Cursor) : Option Cursor :=
  match c.node.visible with
  | [] => none
  | child :: later => some ⟨c.outside, ⟨c.node, later⟩ :: c.branches, child⟩

def nextSibling? (c : Cursor) : Option Cursor :=
  match c.branches with
  | ⟨parent, next :: later⟩ :: rest => some ⟨c.outside, ⟨parent, later⟩ :: rest, next⟩
  | _ => none

def parent? (c : Cursor) : Option Cursor :=
  match c.branches with
  | [] => none
  | b :: rest => some ⟨c.outside, rest, b.parent⟩

theorem parentShorter {c p : Cursor} (up : c.parent? = some p) : p.branches.length < c.branches.length := by
  unfold parent? at up
  split at up
  · contradiction
  · rename_i b rest branches
    cases Option.some.inj up
    rw [branches, List.length_cons]
    exact Nat.lt_succ_self _

def climb? (c : Cursor) : Option Cursor :=
  match c.nextSibling? with
  | some next => some next
  | none =>
    match _ : c.parent? with
    | some parent => parent.climb?
    | none => none
termination_by c.branches.length
decreasing_by exact parentShorter (by assumption)

def next? (c : Cursor) : Option Cursor :=
  match c.firstChild? with
  | some child => some child
  | none => c.climb?

def after (c : Cursor) : Nat → Option Cursor
  | 0 => some c
  | n + 1 => c.next?.bind (·.after n)

end Cursor

end ShellAtlas
