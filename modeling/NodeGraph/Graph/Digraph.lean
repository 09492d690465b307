import NodeGraph.Graph

/-!
# The directed graph of the edges

Vertices are all ids that occur, those of nodes and those at which edges end; an arc leads from one
to another if some edge does. Vertices stand in the order in which they first occur, the nodes
before the ends of edges, and arcs are grouped by their source in that order.
-/

namespace NodeGraph

namespace Graph

def vertices (g : Graph) : List String :=
  (g.ids ++ g.edges.flatMap fun e => [e.source, e.target]).eraseDups

/-- The vertices that arcs lead to from `v`, in the order of the edges. -/
def successors (g : Graph) (v : String) : List String :=
  ((g.outgoing v).map (·.target)).eraseDups

/-- The vertices from which arcs lead to `v`. -/
def predecessors (g : Graph) (v : String) : List String :=
  ((g.incoming v).map (·.source)).eraseDups

def arcs (g : Graph) : List (String × String) :=
  g.vertices.flatMap fun v => (g.successors v).map fun w => (v, w)

theorem mem_successors {g : Graph} {v w : String} :
    w ∈ g.successors v ↔ ∃ e ∈ g.edges, e.source = v ∧ e.target = w := by
  simp [successors, outgoing, List.mem_eraseDups, and_assoc]

theorem mem_predecessors {g : Graph} {v w : String} :
    w ∈ g.predecessors v ↔ ∃ e ∈ g.edges, e.target = v ∧ e.source = w := by
  simp [predecessors, incoming, List.mem_eraseDups, and_assoc]

/-- `seen` together with everything that `next` leads to from it, in at most `fuel` rounds. -/
def closure (next : String → List String) : Nat → List String → List String
  | 0, seen => seen
  | fuel + 1, seen =>
    let found := ((seen.flatMap next).filter (!seen.contains ·)).eraseDups
    if found.isEmpty then seen else closure next fuel (seen ++ found)

/-- The vertices to which a path leads from `v`, `v` among them. -/
def descendants (g : Graph) (v : String) : List String :=
  closure g.successors g.vertices.length [v]

/-- The vertices from which a path leads to `v`, `v` among them. -/
def ancestors (g : Graph) (v : String) : List String :=
  closure g.predecessors g.vertices.length [v]

/-- The vertices on a closed path through `v`, and `v` itself. -/
def component (g : Graph) (v : String) : List String :=
  let back := g.ancestors v
  (g.descendants v).filter (back.contains ·)

end Graph

end NodeGraph
