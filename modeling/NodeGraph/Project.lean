import NodeGraph.Fault
import NodeGraph.Graph.Decode
import NodeGraph.Value.Plain
import NodeGraph.Yaml.Document
import NodeGraph.Yaml.Printer

/-!
# Project files

A project is kept as a document with its version, its graph and its metadata. `Project.ofText` reads
such a document and `Project.text` writes it.
-/

namespace NodeGraph

/-- A fault of reading a document as one of an operation. -/
def readDocument (text : String) : Except Fault Value :=
  match Yaml.read text with
  | .ok v => .ok v
  | .error fault => .error (.yaml fault)

/-- Whether all keys of a mapping are texts. -/
def hasTextKeys (pairs : List (Value × Value)) : Bool :=
  pairs.all fun
    | (.text _, _) => true
    | _ => false

namespace Project

/-- The project that a value describes; a value that counts as false describes the empty one. -/
def ofValue (v : Value) : Except Fault Project :=
  if !v.isTruthy then (Project.decode (.map [])).orFault
  else
    match v with
    | .map pairs => if hasTextKeys pairs then (Project.decode v).orFault else .error .wrongKind
    | _ => .error .wrongKind

/-- The project in a document. -/
def ofText (text : String) : Except Fault Project :=
  match readDocument text with
  | .ok v => ofValue v
  | .error fault => .error fault

/-- A project with metadata that is given as a value, where what counts as false is none. -/
def ofGraph (g : Graph) (metadata : Value) : Except Fault Project :=
  let metadata := if metadata.isTruthy then metadata else .map []
  ((Fields.decode metadata).under (.name "metadata")).orFault.map fun fields => ⟨"1.0", g, fields⟩

/-- A position as it is; only here a file holds floats that are not finite. -/
def positionValue (p : Position) : Value :=
  .map [(.text "x", .float p.x), (.text "y", .float p.y)]

def nodeValue? (n : Node) : Option Value := do
  let fields ← Value.plain? (.map n.fields)
  return .map [(.text "id", .text n.id), (.text "type", .text n.type),
    (.text "position", positionValue n.position), (.text "fields", fields)]

def edgeValue? (e : Edge) : Option Value := do
  let output ← e.sourceOutput.plain?
  let input ← e.targetInput.plain?
  return .map [(.text "id", .text e.id), (.text "source", .text e.source),
    (.text "source_output", output), (.text "target", .text e.target),
    (.text "target_input", input)]

def graphValue? (g : Graph) : Option Value := do
  let nodes ← g.nodes.mapM nodeValue?
  let edges ← g.edges.mapM edgeValue?
  return .map [(.text "nodes", .list nodes), (.text "edges", .list edges)]

/-- The entries of a project file. -/
def entries? (p : Project) : Option (List (Value × Value)) := do
  let graph ← graphValue? p.graph
  let metadata ← Value.plain? (.map p.metadata)
  return [(.text "version", .text p.version), (.text "graph", graph), (.text "metadata", metadata)]

/-- Whether all integers of a project can be written. -/
def isWritable (p : Project) : Bool :=
  p.graph.nodes.all (fun n => Value.entriesWritable n.fields) &&
    p.graph.edges.all (fun e => e.sourceOutput.isWritable && e.targetInput.isWritable) &&
    Value.entriesWritable p.metadata

/-- The document for a project. -/
def text (p : Project) : Except Fault String :=
  match p.entries? with
  | some pairs => if p.isWritable then .ok (Yaml.print pairs) else .error (.yaml .badScalar)
  | none => .error .notText

end Project

end NodeGraph
