import NodeGraph.Fault
import NodeGraph.Graph.Digraph

/-!
# The order of emission

Nodes are emitted sources first; among those whose sources are all emitted, the one that stands
first in the graph comes next. There is no such order if the edges run in a circle.
-/

namespace NodeGraph.Graph

/-- The place of the last node with an id; vertices that are no nodes come behind the number of
different ids. -/
def rank (g : Graph) (v : String) : Nat :=
  match g.ids.reverse.idxOf? v with
  | some i => g.ids.length - 1 - i
  | none => g.ids.eraseDups.length

/-- Whether all predecessors of `v` are done. -/
def isReady (g : Graph) (done : List String) (v : String) : Bool :=
  (g.predecessors v).all (done.contains ·)

/-- Takes the first ready vertex of those waiting until none waits; `none` if none is ready. -/
def emit (g : Graph) : Nat → List String → List String → Option (List String)
  | _, _, [] => some []
  | 0, _, _ :: _ => none
  | fuel + 1, done, waiting =>
    match waiting.find? (g.isReady done) with
    | none => none
    | some v => (emit g fuel (v :: done) (waiting.erase v)).map (v :: ·)

/-- All vertices, sources first. -/
def sortedVertices (g : Graph) : Option (List String) :=
  let waiting := g.vertices.mergeSort fun v w => g.rank v ≤ g.rank w
  emit g waiting.length [] waiting

/-- The nodes in the order in which their source is emitted. -/
def emissionOrder (g : Graph) : Except Fault (List Node) :=
  match g.sortedVertices with
  | some order => .ok (order.filterMap g.node?)
  | none => .error .cyclic

end NodeGraph.Graph
