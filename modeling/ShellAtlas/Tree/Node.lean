import ShellAtlas.Position
import ShellAtlas.Text.Measure
/-!
Syntax trees of shell scripts. A tree carries byte offsets into the text it was read from; texts
and positions of nodes are computed from that text. A hidden node is an empty token that only the
search for the node at a point can meet: every other walk passes over it.
-/
namespace ShellAtlas

/-- What a node says about itself. The field is its role in its parent, empty if it has none. -/
structure Label where
  kind : String
  named : Bool
  error : Bool
  missing : Bool
  hidden : Bool
  field : String
  start : Nat
  stop : Nat
  deriving DecidableEq, Repr

inductive Tree where
  | node (label : Label) (children : List Tree)
  deriving Repr

structure Visit where
  above : List Tree
  node : Tree

namespace Tree

def label : Tree → Label
  | .node l _ => l

def children : Tree → List Tree
  | .node _ cs => cs

def kind (t : Tree) : String :=
  t.label.kind

def visible (t : Tree) : List Tree :=
  t.children.filter fun c => !c.label.hidden

def isLeaf (t : Tree) : Bool :=
  t.visible.isEmpty

def namedChildren (t : Tree) : List Tree :=
  t.visible.filter fun c => c.label.named

def field? (t : Tree) (name : String) : Option Tree :=
  t.visible.find? fun c => c.label.field = name

def text (source : List Char) (t : Tree) : List Char :=
  (Text.slice? t.label.start t.label.stop source).getD []

def range (source : List Char) (t : Tree) : Range :=
  ⟨.ofOffset source t.label.start, .ofOffset source t.label.stop⟩

/-- The text of the first named child where it is not empty: the name that an assignment or a
function definition declares. -/
def nameText? (source : List Char) (t : Tree) : Option (List Char) :=
  (t.namedChildren.head?.map (text source)).filter fun cs => !cs.isEmpty

mutual

def visits (above : List Tree) : Tree → List Visit
  | .node l cs => ⟨above, .node l cs⟩ :: visitsOf (.node l cs :: above) cs

def visitsOf (above : List Tree) : List Tree → List Visit
  | [] => []
  | c :: cs => if c.label.hidden then visitsOf above cs else visits above c ++ visitsOf above cs

end

def walk (t : Tree) : List Visit :=
  visits [] t

mutual

/-- The node at a position: from the root down, the first child that the position does not lie
behind, as long as it does not lie before that child and the child is not hidden. -/
def nodeAt (source : List Char) (p : Position) : Tree → Tree
  | .node l cs => (nodeAmong source p cs).getD (.node l cs)

def nodeAmong (source : List Char) (p : Position) : List Tree → Option Tree
  | [] => none
  | c :: cs =>
    let r := range source c
    if (compare r.stop p).isLT || (r.start ≠ r.stop && r.stop = p) then nodeAmong source p cs
    else if (compare p r.start).isLT then none
    else if c.label.hidden then none
    else some (nodeAt source p c)

end

def ofRows? (rows : List (Nat × Label)) : Option Tree :=
  match rows.foldr place [] with
  | [(0, t)] => some t
  | _ => none
where
  place (row : Nat × Label) (after : List (Nat × Tree)) : List (Nat × Tree) :=
    (row.1, .node row.2 ((after.takeWhile fun a => row.1 < a.1).map (·.2))) ::
      after.dropWhile fun a => row.1 < a.1

end Tree

end ShellAtlas
