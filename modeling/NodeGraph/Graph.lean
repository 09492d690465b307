import NodeGraph.Number.Double
import NodeGraph.Value.Arrangement

/-!
# Graphs

Nodes with a type, a place on the canvas and field values, and edges from an output pin of one node
to an input pin of another. A graph is the plain lists of both: ids may repeat and edges may end
nowhere, as they come from a file.
-/

namespace NodeGraph

structure Position where
  x : Double
  y : Double
  deriving DecidableEq, Inhabited

def Position.origin : Position := ⟨.zero, .zero⟩

/-- Field values under their keys, in the order in which the keys first came. The keys are texts,
unless the node's type is unknown and it was updated with others. -/
abbrev Fields := List (Value × Value)

structure Node where
  id : String
  type : String
  position : Position
  fields : Fields
  deriving Inhabited

/-- The value of a field, null if there is none. -/
def Node.field (node : Node) (name : String) : Value :=
  (Value.field? name node.fields).getD .null

/-- A copy of a node, with copies of its values. -/
def Node.copied (node : Node) : Node := { node with fields := Value.copiedEntries node.fields }

/-- A connection. The pins are texts, unless an update set them to another value. -/
structure Edge where
  id : String
  source : String
  sourceOutput : Value
  target : String
  targetInput : Value
  deriving Inhabited

def Edge.copied (edge : Edge) : Edge :=
  { edge with
    sourceOutput := edge.sourceOutput.copied
    targetInput := edge.targetInput.copied }

structure Graph where
  nodes : List Node
  edges : List Edge
  deriving Inhabited

namespace Graph

def empty : Graph := ⟨[], []⟩

def ids (g : Graph) : List String := g.nodes.map (·.id)

/-- The node with an id; of several the last one. -/
def node? (g : Graph) (id : String) : Option Node := g.nodes.reverse.find? (·.id = id)

def incoming (g : Graph) (id : String) : List Edge := g.edges.filter (·.target = id)

def outgoing (g : Graph) (id : String) : List Edge := g.edges.filter (·.source = id)

/-- A copy of a graph, down to the values in it. -/
def copied (g : Graph) : Graph := ⟨g.nodes.map Node.copied, g.edges.map Edge.copied⟩

/-- Each id once with the last node that has it, in the order in which the ids first come. -/
def nodeMap (g : Graph) : List (String × Node) :=
  g.ids.eraseDups.filterMap fun id => (g.node? id).map fun node => (id, node)

end Graph

end NodeGraph
