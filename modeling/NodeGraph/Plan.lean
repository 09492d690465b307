import NodeGraph.Graph.Order
import NodeGraph.Registry
import NodeGraph.Value.Plain

/-!
# The plan of a graph

A text that lists the nodes in the order of emission, each followed by its outgoing edges. If the
edges run in a circle the nodes come in the order of the graph.
-/

namespace NodeGraph

/-- The line of a node, numbered from 1. -/
def planNodeLine (r : Option Registry) (index : Nat) (node : Node) : String :=
  let category := match r.bind (·.get? node.type) with
    | some d => " <" ++ d.category ++ ">"
    | none => ""
  padded 2 index ++ ". " ++ node.id ++ " [" ++ node.type ++ "]" ++ category

def planEdgeLine (e : Edge) : String :=
  "    └─▶ " ++ e.target ++ "  (" ++ e.sourceOutput.display ++ "->" ++ e.targetInput.display ++ ")"

/-- The heading of a plan and the nodes in its order. -/
def planOrder (g : Graph) : String × List Node :=
  match g.emissionOrder with
  | .ok order => ("# ASCII Plan (emission order)", order)
  | .error _ => ("# ASCII Plan (graph order; cycle detected)", g.nodes)

def planLines (g : Graph) (r : Option Registry) : List String :=
  let (heading, order) := planOrder g
  heading :: (order.mapIdx fun i node =>
    planNodeLine r (i + 1) node :: (g.outgoing node.id).map planEdgeLine).flatten

def asciiPlan (g : Graph) (r : Option Registry) : String := "\n".intercalate (planLines g r)

/-- Whether the pins of an edge can be written. -/
def Edge.isWritable (e : Edge) : Bool := e.sourceOutput.isWritable && e.targetInput.isWritable

/-- The plan, if the pins in it can be written. -/
def Graph.plan (g : Graph) (r : Option Registry) : Except Fault String :=
  if (planOrder g).2.all fun node => (g.outgoing node.id).all Edge.isWritable then
    .ok (asciiPlan g r)
  else .error .wrongShape

end NodeGraph
