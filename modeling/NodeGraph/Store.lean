import NodeGraph.Generation
import NodeGraph.Project

/-!
# The store

The graph that is being edited: nodes and edges under their ids, the selected node, the highlighted
ones and the errors found last. Edges always end at nodes of the store; whether they fit the pins is
only checked on demand.

An edit either succeeds or fails, and in both cases leaves a workspace: the store, and the source of
new ids, which may have been drawn from even by an edit that fails. Ids given to an edit may be any
value. One that is no text names nothing, and one that could not be a key is a fault.

The store shares no values with its surroundings. Values that come in are copied, and so are those
of the nodes and graphs that are handed out.
-/

namespace NodeGraph

/-! ## Ids -/

/-- Where the changing part of new ids comes from: the texts given first, then the numbers from
`next` on. -/
structure Ids where
  given : List String
  next : Nat
  deriving Inhabited

namespace Ids

/-- How much of a text goes into an id. -/
def size : Nat := 9

def draw : Ids → String × Ids
  | ⟨s :: given, next⟩ => (String.ofList (s.toList.take size), ⟨given, next⟩)
  | ⟨[], next⟩ => (padded size next, ⟨[], next + 1⟩)

/-- The first id drawn that is not taken; one of more numbers than ids are taken is free. -/
def fresh (kind : String) (taken : List String) : Nat → Ids → String × Ids
  | 0, ids =>
    let (s, ids) := ids.draw
    (kind ++ "_" ++ s, ids)
  | fuel + 1, ids =>
    let (s, ids) := ids.draw
    let id := kind ++ "_" ++ s
    if taken.contains id then fresh kind taken fuel ids else (id, ids)

end Ids

/-! ## State -/

structure Store where
  nodes : Table Node
  edges : Table Edge
  /-- The selected node, or null. -/
  selected : Value
  highlighted : List Value
  errors : List NodeErrors

def Store.empty : Store := ⟨.empty, .empty, .null, [], []⟩

instance : Inhabited Store := ⟨.empty⟩

/-- The graph in the store. -/
def Store.graph (s : Store) : Graph := ⟨s.nodes.values, s.edges.values⟩

/-- The graph as it is handed out. -/
def Store.exported (s : Store) : Graph := s.graph.copied

structure Workspace where
  store : Store
  ids : Ids
  deriving Inhabited

/-- An edit: it returns a value or a fault, and leaves a workspace. -/
abbrev Edit (α : Type) := EStateM Fault Workspace α

namespace Edit

def store : Edit Store := do return (← get).store

def setStore (s : Store) : Edit Unit := modify fun w => { w with store := s }

def orFail {α : Type} : Except Fault α → Edit α
  | .ok a => pure a
  | .error f => throw f

/-- A new id for a node or an edge. -/
def newId (kind : String) : Edit String := do
  let w ← get
  let taken := w.store.nodes.keys ++ w.store.edges.keys
  let (id, ids) := Ids.fresh kind taken (w.ids.given.length + taken.length + 1) w.ids
  set { w with ids := ids }
  return id

end Edit

namespace Store

open Edit

/-- The text under which something could be stored. -/
def keyOf (id : Value) : Except Fault (Option String) :=
  match id with
  | .text s => .ok (some s)
  | v => if v.isKey then .ok none else .error .wrongKind

def node? (s : Store) (id : Value) : Except Fault (Option Node) := do
  return (← keyOf id).bind s.nodes.get?

def edge? (s : Store) (id : Value) : Except Fault (Option Edge) := do
  return (← keyOf id).bind s.edges.get?

/-- The id of a node that has to be there. -/
def requireNode (s : Store) (id : Value) : Except Fault String := do
  match ← keyOf id with
  | some key => if s.nodes.contains key then return key else throw (.unknownNode id)
  | none => throw (.unknownNode id)

/-! ## Positions -/

/-- The parts of a value that can be taken apart. -/
def parts : Value → Except Fault (List Value)
  | .list items | .tuple items | .set items => .ok items
  | .text s => .ok (s.toList.map fun c => .text c.toString)
  | .bytes bs => .ok (bs.map fun b => .int b.toNat)
  | .map entries => .ok (entries.map (·.1))
  | _ => .error .wrongKind

/-- A position: null for the origin, a mapping with `x` and `y`, or two parts. -/
def positionOf (v : Value) : Except Fault Position :=
  match v with
  | .null => .ok .origin
  | .map pairs =>
    if hasTextKeys pairs then (Position.decode v).orFault else .error .wrongKind
  | v => do
    match ← parts v with
    | [x, y] => (Position.decode (.map [(.text "x", x), (.text "y", y)])).orFault
    | _ => throw .wrongShape

/-! ## Nodes -/

/-- Adds a node of a type, with the initial values of its fields. -/
def addNode (r : Registry) (type position : Value) : Edit Node := do
  let d ← match ← orFail (keyOf type) with
    | some name => orFail (r.require name)
    | none => throw (.unknownType type)
  let id ← newId "node"
  let position ← orFail (positionOf position)
  let node : Node := ⟨id, d.name, position, Value.copiedEntries d.initialFields⟩
  let s ← store
  setStore { s with nodes := s.nodes.insert id node }
  return node.copied

/-- The keys of an update that a definition does not declare. Names of fields are texts. -/
def undeclared (d : NodeDefinition) (fields : Fields) : Fields :=
  fields.filter fun (key, _) => match key with
    | .text name => !d.fields.contains name
    | _ => true

def keyTexts (fields : Fields) : Option (List String) :=
  fields.mapM fun (key, _) => match key with
    | .text name => some name
    | _ => none

/-- Whether a definition declares all fields of an update. -/
def checkFields (d : NodeDefinition) (id : Value) (fields : Fields) : Except Fault Unit :=
  match undeclared d fields with
  | [] => .ok ()
  | unknown =>
    match keyTexts unknown with
    | some names => .error (.unknownFields id (names.mergeSort fun a b => a ≤ b))
    | none => .error .wrongKind

/-- Puts values into fields that the node's type declares; a node of an unknown type takes any. -/
def updateNode (r : Registry) (id : Value) (fields : Fields) : Edit (Option Node) := do
  let s ← store
  match ← orFail (s.node? id) with
  | none => return none
  | some node =>
    match r.get? node.type with
    | some d => orFail (checkFields d id fields)
    | none => pure ()
    let given := Value.copiedEntries fields
    let merged := given.foldl (fun entries (k, v) => Value.insert k v entries) node.fields
    let node := { node with fields := merged }
    setStore { s with nodes := s.nodes.insert node.id node }
    return some node.copied

def setPosition (s : Store) (node : Node) (position : Position) : Node × Store :=
  let node := { node with position := position }
  (node, { s with nodes := s.nodes.insert node.id node })

def moveNode (id position : Value) : Edit (Option Node) := do
  let s ← store
  match ← orFail (s.node? id) with
  | none => return none
  | some node =>
    let (node, s) := s.setPosition node (← orFail (positionOf position))
    setStore s
    return some node.copied

/-- Moves a node to where another one is. -/
def moveNodeTo (id : Value) (position : Position) : Edit (Option Node) := do
  let s ← store
  match ← orFail (s.node? id) with
  | none => return none
  | some node =>
    let (node, s) := s.setPosition node position
    setStore s
    return some node.copied

/-- Removes a node with its edges, and takes it out of the selection and the highlights. -/
def deleteNode (id : Value) : Edit Bool := do
  let s ← store
  match ← orFail (keyOf id) with
  | none => return false
  | some key =>
    if !s.nodes.contains key then return false
    setStore { s with
      nodes := s.nodes.erase key
      edges := s.edges.filter fun _ e => e.source ≠ key && e.target ≠ key
      selected := if s.selected.eqv id then .null else s.selected
      highlighted := s.highlighted.filter fun h => !h.eqv id }
    return true

/-- Adds a copy of a node, shifted by `offset` in both directions. -/
def duplicateNode (offset : Double) (id : Value) : Edit (Option Node) := do
  let s ← store
  match ← orFail (s.node? id) with
  | none => return none
  | some node =>
    let copyId ← newId "node"
    let position : Position := ⟨node.position.x.add offset, node.position.y.add offset⟩
    let copy := { node.copied with id := copyId, position := position }
    setStore { s with nodes := s.nodes.insert copyId copy }
    return some copy.copied

/-! ## Edges -/

/-- The id that is asked for, if it counts as given. -/
def wantedId (id : Value) : Edit Value := do
  if id.isTruthy then return id else return .text (← newId "edge")

/-- Adds an edge between two nodes. The pins are texts; they need not exist. -/
def addEdge (source sourceOutput target targetInput id : Value) : Edit Edge := do
  let s ← store
  let _ ← orFail (s.requireNode source)
  let _ ← orFail (s.requireNode target)
  match id with
  | .null => pure ()
  | id =>
    match ← orFail (keyOf id) with
    | some key => if s.edges.contains key then throw (.duplicateEdge key)
    | none => pure ()
  let id ← wantedId id
  let edge ← orFail (Edge.decode (.map [(.text "id", id), (.text "source", source),
    (.text "source_output", sourceOutput), (.text "target", target),
    (.text "target_input", targetInput)])).orFault
  setStore { s with edges := s.edges.insert edge.id edge }
  return edge

/-- Changes to an edge; null leaves a part as it is. -/
structure EdgeChanges where
  source : Value
  sourceOutput : Value
  target : Value
  targetInput : Value
  deriving Inhabited

/-- `change` unless it is null. -/
def changed (old change : Value) : Value :=
  match change with
  | .null => old
  | v => v

/-- Redirects an edge; its ends have to be nodes, its pins may be any values. -/
def updateEdge (id : Value) (changes : EdgeChanges) : Edit (Option Edge) := do
  let s ← store
  match ← orFail (s.edge? id) with
  | none => return none
  | some edge =>
    let source ← orFail (s.requireNode (changed (.text edge.source) changes.source))
    let target ← orFail (s.requireNode (changed (.text edge.target) changes.target))
    let edge := { edge with
      source := source
      sourceOutput := changed edge.sourceOutput changes.sourceOutput
      target := target
      targetInput := changed edge.targetInput changes.targetInput }
    setStore { s with edges := s.edges.insert edge.id edge }
    return some edge

/-- Removes an edge. If there are no edges at all, the id is not even looked at. -/
def deleteEdge (id : Value) : Edit Bool := do
  let s ← store
  if s.edges.keys.isEmpty then return false
  match ← orFail (keyOf id) with
  | none => return false
  | some key =>
    if !s.edges.contains key then return false
    setStore { s with edges := s.edges.erase key }
    return true

/-! ## Selection and highlights -/

def select (id : Value) : Edit Unit := do
  let s ← store
  setStore { s with selected := id }

/-- Highlights what is not highlighted, and the other way round. -/
def toggleHighlight (id : Value) : Edit Unit := do
  let s ← store
  let highlighted := if s.highlighted.any (·.eqv id) then s.highlighted.eraseP (·.eqv id)
    else s.highlighted ++ [id]
  setStore { s with highlighted := highlighted }

/-! ## The whole graph -/

def clear : Edit Unit := setStore .empty

/-- Copies of nodes under distinct ids, read one after the other. -/
def collectNodes (done : Table Node) : List (Checked Node) → Except Fault (Table Node)
  | [] => .ok done
  | item :: rest => do
    let node ← item.orFault
    if done.contains node.id then throw (.duplicateNode node.id)
    collectNodes (done.insert node.id node.copied) rest

/-- Edges under distinct ids that end at the nodes, read one after the other. -/
def collectEdges (nodes : Table Node) (done : Table Edge) :
    List (Checked Edge) → Except Fault (Table Edge)
  | [] => .ok done
  | item :: rest => do
    let edge ← item.orFault
    if done.contains edge.id then throw (.duplicateEdge edge.id)
    match [edge.source, edge.target].filter (!nodes.contains ·) with
    | [] => collectEdges nodes (done.insert edge.id edge) rest
    | missing => throw (.missingEnds edge.id missing)

/-- Replaces the whole graph by one that has no inconsistency. -/
def importGraph (nodes : List (Checked Node)) (edges : List (Checked Edge)) : Edit Unit := do
  let nodes ← orFail (collectNodes .empty nodes)
  let edges ← orFail (collectEdges nodes .empty edges)
  setStore ⟨nodes, edges, .null, [], []⟩

/-- The same from values. -/
def importValues (nodes edges : Value) : Edit Unit := do
  let nodes ← orFail (parts nodes)
  let found ← orFail (collectNodes .empty (nodes.map Node.decode))
  let edges ← orFail (parts edges)
  let wires ← orFail (collectEdges found .empty (edges.map Edge.decode))
  setStore ⟨found, wires, .null, [], []⟩

/-- The same from a graph. -/
def openGraph (g : Graph) : Edit Unit := importGraph (g.nodes.map .good) (g.edges.map .good)

/-- The same from a project file, which is returned. -/
def openProject (text : String) : Edit Project := do
  let p ← orFail (Project.ofText text)
  openGraph p.graph
  return p

/-- The project file for the graph in the store. -/
def save (s : Store) (metadata : Value) : Except Fault String := do
  (← Project.ofGraph s.exported metadata).text

/-! ## Queries -/

/-- Which neighbours of a node are asked for. -/
inductive Direction where
  | outgoing
  | incoming
  | both
  deriving DecidableEq

def Direction.ofValue? : Value → Option Direction
  | .text "outgoing" => some .outgoing
  | .text "incoming" => some .incoming
  | .text "both" => some .both
  | _ => none

def neighbours (g : Graph) (id : String) : Direction → List String
  | .outgoing => g.successors id
  | .incoming => g.predecessors id
  | .both => g.successors id ++ g.predecessors id

/-- The neighbours of a node in the order of the store; none for an unknown node. -/
def connected (s : Store) (id direction : Value) : Except Fault (List String) :=
  match id with
  | .text key =>
    if s.nodes.contains key then
      match Direction.ofValue? direction with
      | some d =>
        let found := neighbours s.graph key d
        .ok (s.nodes.keys.filter (found.contains ·))
      | none => .error (.unknownDirection direction)
    else .ok []
  | _ => .ok []

/-- The other nodes from which a path leads to a node, in the order of the store. -/
def dependencies (s : Store) (id : Value) : List String :=
  match id with
  | .text key =>
    let found := s.graph.ancestors key
    s.nodes.keys.filter fun other => other ≠ key && found.contains other
  | _ => []

/-! ## Validation and generation -/

/-- Validates the graph and keeps the errors. -/
def validate (r : Registry) : Edit (List NodeErrors) := do
  let s ← store
  let errors ← orFail (NodeGraph.validate s.graph r)
  setStore { s with errors := errors }
  return errors

def generate (r : Registry) (settings : Settings) : Edit String := do
  let s ← store
  orFail (NodeGraph.generate s.graph r settings)

end Store

end NodeGraph
