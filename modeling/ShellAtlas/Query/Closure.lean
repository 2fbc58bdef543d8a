import ShellAtlas.Index.Atlas
/-!
The files that a document sources, directly or through others. Resolved targets are followed when
they are first met; unresolved ones are reported and not followed.
-/
namespace ShellAtlas.Atlas

structure Front where
  queue : List String
  found : List String
  deriving DecidableEq, Repr

def Front.meet (f : Front) (t : Target) : Front :=
  if f.found.contains t.uri then f
  else if t.isResolved then ⟨f.queue ++ [t.uri], f.found ++ [t.uri]⟩
  else ⟨f.queue, f.found ++ [t.uri]⟩

def targets (a : Atlas) (uri : String) : List Target :=
  match a.document? uri with
  | some d => d.targets
  | none => []

def explore (a : Atlas) : Nat → Front → Front
  | 0, f => f
  | fuel + 1, f =>
    match f.queue with
    | [] => f
    | uri :: rest => explore a fuel ((a.targets uri).foldl Front.meet ⟨rest, f.found⟩)

/-- All targets of all documents. A URI is looked at once for the start and once for each time it
is found, so their number and one more bounds a search. -/
def edges (a : Atlas) : List Target :=
  a.documents.values.flatMap (·.targets)

def sourced (a : Atlas) (uri : String) : List String :=
  (a.explore (a.edges.length + 1) ⟨[uri], []⟩).found.mergeSort fun x y => (compare x y).isLE

end ShellAtlas.Atlas
