import NodeGraph.Proofs.Store.Edit
import NodeGraph.Proofs.Store.Operation

/-!
# Failures

An edit checks everything it needs before it writes, so one that fails leaves the store as it was.
The source of new ids may have moved on.
-/

namespace NodeGraph

open Edit

namespace Store

variable {id : Value}

/-! ## Nodes -/

theorem allOrNothing_addNode (r : Registry) (type position : Value) :
    AllOrNothing (addNode r type position) := by
  -- what follows the two ways to come by a definition
  have hadd : ∀ d : NodeDefinition, AllOrNothing (do
      let id ← newId "node"
      let position ← orFail (positionOf position)
      let node : Node := ⟨id, d.name, position, Value.copiedEntries d.initialFields⟩
      let s ← store
      setStore { s with nodes := s.nodes.insert id node }
      return node.copied) := by
    intro d
    refine (reads_newId _).bind_allOrNothing fun id => ?_
    refine (reads_orFail _).bind_allOrNothing fun p => ?_
    refine reads_store.bind_allOrNothing fun s => ?_
    exact (allOrNothing_setStore _).bind_pure _
  unfold addNode
  refine (reads_orFail _).bind_allOrNothing fun key => ?_
  cases key with
  | none => exact (reads_throw _).bind_allOrNothing hadd
  | some name => exact (reads_orFail _).bind_allOrNothing hadd

/-- An edit of one node only reads until the node is found. -/
theorem allOrNothing_node? {k : Store → Node → Edit (Option Node)}
    (hk : ∀ s n, AllOrNothing (k s n)) :
    AllOrNothing (do
      let s ← store
      match ← orFail (s.node? id) with
      | none => return none
      | some n => k s n : Edit (Option Node)) := by
  refine reads_store.bind_allOrNothing fun s => ?_
  refine (reads_orFail _).bind_allOrNothing fun found => ?_
  cases found with
  | none => exact (reads_pure _).toAllOrNothing
  | some n => exact hk s n

theorem allOrNothing_updateNode (r : Registry) (id : Value) (fields : Fields) :
    AllOrNothing (updateNode r id fields) := by
  refine allOrNothing_node? fun s n => ?_
  cases r.get? n.type with
  | none => exact (allOrNothing_setStore _).bind_pure _
  | some d =>
      refine (reads_orFail _).bind_allOrNothing fun _ => ?_
      exact (allOrNothing_setStore _).bind_pure _

theorem allOrNothing_moveNode (id position : Value) : AllOrNothing (moveNode id position) := by
  refine allOrNothing_node? fun s n => ?_
  refine (reads_orFail _).bind_allOrNothing fun p => ?_
  exact (allOrNothing_setStore _).bind_pure _

theorem allOrNothing_moveNodeTo (id : Value) (position : Position) :
    AllOrNothing (moveNodeTo id position) := by
  refine allOrNothing_node? fun s n => ?_
  exact (allOrNothing_setStore _).bind_pure _

theorem allOrNothing_duplicateNode (offset : Double) (id : Value) :
    AllOrNothing (duplicateNode offset id) := by
  refine allOrNothing_node? fun s n => ?_
  refine (reads_newId _).bind_allOrNothing fun copyId => ?_
  exact (allOrNothing_setStore _).bind_pure _

/-- A deletion only reads until something is found under the id. -/
theorem allOrNothing_deletion {α : Type} {t : Table α} {write : String → Store} :
    AllOrNothing (do
      match ← orFail (keyOf id) with
      | none => return false
      | some key =>
        if !t.contains key then return false
        setStore (write key)
        return true : Edit Bool) := by
  refine (reads_orFail _).bind_allOrNothing fun key => ?_
  cases key with
  | none => exact (reads_pure _).toAllOrNothing
  | some key =>
      dsimp only
      split
      · exact (reads_pure _).toAllOrNothing
      · exact (allOrNothing_setStore _).bind_pure _

theorem allOrNothing_deleteNode (id : Value) : AllOrNothing (deleteNode id) :=
  reads_store.bind_allOrNothing fun _ => allOrNothing_deletion

/-! ## Edges -/

theorem reads_wantedId (id : Value) : Reads (wantedId id) := by
  unfold wantedId
  split
  · exact reads_pure _
  · exact (reads_newId _).bind fun _ => reads_pure _

theorem allOrNothing_addEdge (source output target input id : Value) :
    AllOrNothing (addEdge source output target input id) := by
  unfold addEdge
  refine reads_store.bind_allOrNothing fun s => ?_
  refine (reads_orFail _).bind_allOrNothing fun _ => ?_
  refine (reads_orFail _).bind_allOrNothing fun _ => ?_
  -- what follows the check of the id that is given
  have hadd : ∀ _ : Unit, AllOrNothing (do
      let id ← wantedId id
      let edge ← orFail (Edge.decode (.map [(.text "id", id), (.text "source", source),
        (.text "source_output", output), (.text "target", target),
        (.text "target_input", input)])).orFault
      setStore { s with edges := s.edges.insert edge.id edge }
      return edge) := by
    intro _
    refine (reads_wantedId _).bind_allOrNothing fun _ => ?_
    refine (reads_orFail _).bind_allOrNothing fun _ => ?_
    exact (allOrNothing_setStore _).bind_pure _
  dsimp only
  split
  · exact hadd ()
  · refine (reads_orFail _).bind_allOrNothing fun key => ?_
    split
    · split
      · exact (reads_throw _).bind_allOrNothing hadd
      · exact hadd ()
    · exact hadd ()

theorem allOrNothing_updateEdge (id : Value) (changes : EdgeChanges) :
    AllOrNothing (updateEdge id changes) := by
  refine reads_store.bind_allOrNothing fun s => ?_
  refine (reads_orFail _).bind_allOrNothing fun found => ?_
  cases found with
  | none => exact (reads_pure _).toAllOrNothing
  | some e =>
      refine (reads_orFail _).bind_allOrNothing fun source => ?_
      refine (reads_orFail _).bind_allOrNothing fun target => ?_
      exact (allOrNothing_setStore _).bind_pure _

theorem allOrNothing_deleteEdge (id : Value) : AllOrNothing (deleteEdge id) := by
  refine reads_store.bind_allOrNothing fun s => ?_
  split
  · exact (reads_pure _).toAllOrNothing
  · exact allOrNothing_deletion

/-! ## The whole graph -/

theorem allOrNothing_importGraph (nodes : List (Checked Node)) (edges : List (Checked Edge)) :
    AllOrNothing (importGraph nodes edges) := by
  refine (reads_orFail _).bind_allOrNothing fun found => ?_
  refine (reads_orFail _).bind_allOrNothing fun wires => ?_
  exact allOrNothing_setStore _

theorem allOrNothing_importValues (nodes edges : Value) :
    AllOrNothing (importValues nodes edges) := by
  refine (reads_orFail _).bind_allOrNothing fun nodeItems => ?_
  refine (reads_orFail _).bind_allOrNothing fun found => ?_
  refine (reads_orFail _).bind_allOrNothing fun edgeItems => ?_
  refine (reads_orFail _).bind_allOrNothing fun wires => ?_
  exact allOrNothing_setStore _

theorem allOrNothing_openProject (text : String) : AllOrNothing (openProject text) := by
  refine (reads_orFail _).bind_allOrNothing fun p => ?_
  exact (allOrNothing_importGraph _ _).bind_pure _

theorem allOrNothing_openFile (files : Files) (file : Path) :
    AllOrNothing (openFile files file) :=
  (reads_orFail _).bind_allOrNothing fun text => allOrNothing_openProject text

/-! ## Selection, validation and generation -/

theorem allOrNothing_select (id : Value) : AllOrNothing (select id) :=
  reads_store.bind_allOrNothing fun _ => allOrNothing_setStore _

theorem allOrNothing_toggleHighlight (id : Value) : AllOrNothing (toggleHighlight id) :=
  reads_store.bind_allOrNothing fun _ => allOrNothing_setStore _

theorem allOrNothing_validate (r : Registry) : AllOrNothing (validate r) := by
  refine reads_store.bind_allOrNothing fun s => ?_
  refine (reads_orFail _).bind_allOrNothing fun errors => ?_
  exact (allOrNothing_setStore _).bind_pure _

theorem reads_generate (r : Registry) (settings : Settings) : Reads (generate r settings) :=
  reads_store.bind fun _ => reads_orFail _

end Store

open Store

/-! ## Operations -/

theorem Operation.allOrNothing (r : Registry) (settings : Settings) (operation : Operation) :
    AllOrNothing (operation.run r settings) := by
  cases operation with
  | addNode type position => exact (allOrNothing_addNode r type position).bind_pure _
  | updateNode id fields => exact (allOrNothing_updateNode r id fields).bind_pure _
  | moveNode id position => exact (allOrNothing_moveNode id position).bind_pure _
  | moveNodeTo id position => exact (allOrNothing_moveNodeTo id position).bind_pure _
  | duplicateNode id => exact (allOrNothing_duplicateNode _ id).bind_pure _
  | deleteNode id => exact (allOrNothing_deleteNode id).bind_pure _
  | node id => exact (reads_query _ _).toAllOrNothing
  | addEdge source output target input id =>
      exact (allOrNothing_addEdge source output target input id).bind_pure _
  | updateEdge id changes => exact (allOrNothing_updateEdge id changes).bind_pure _
  | deleteEdge id => exact (allOrNothing_deleteEdge id).bind_pure _
  | edge id => exact (reads_query _ _).toAllOrNothing
  | select id => exact (allOrNothing_select id).bind_pure _
  | toggleHighlight id => exact (allOrNothing_toggleHighlight id).bind_pure _
  | clear => exact (allOrNothing_setStore _).bind_pure _
  | importGraph nodes edges => exact (allOrNothing_importGraph nodes edges).bind_pure _
  | importValues nodes edges => exact (allOrNothing_importValues nodes edges).bind_pure _
  | openProject text => exact (allOrNothing_openProject text).bind_pure _
  | openFile files file => exact (allOrNothing_openFile files file).bind_pure _
  | connected id direction => exact (reads_query _ _).toAllOrNothing
  | dependencies id => exact (reads_store.bind fun _ => reads_pure _).toAllOrNothing
  | validate => exact (allOrNothing_validate r).bind_pure _
  | generate => exact ((reads_generate r settings).bind fun _ => reads_pure _).toAllOrNothing

/-- A call that fails, for whatever reason, leaves the store exactly as it was. -/
theorem Call.store_eq_of_error {c : Call} {w w' : Workspace} {f : Fault}
    (h : c.run w = .error f w') : w'.store = w.store :=
  (c.operation.allOrNothing c.registry c.settings).error h

/-- A workspace that took over a graph of one node. -/
def oneNode : Workspace :=
  (Workspace.start ⟨[], 1⟩).after
    [⟨.empty, .standard, .importGraph [.good ⟨"a", "Constant", .origin, []⟩] []⟩]

/-- Another graph to take over, with an edge from a node that is not in it. -/
def danglingImport : Call where
  registry := .empty
  settings := .standard
  operation := .importGraph [.good ⟨"b", "Print", .origin, []⟩]
    [.good ⟨"e", "a", .text "value", "b", .text "in"⟩]

theorem danglingImport_keeps_store :
    oneNode.store.graph.ids = ["a"] ∧
      ∃ w', danglingImport.run oneNode = .error (.missingEnds "e" ["a"]) w' ∧
        w'.store = oneNode.store := by
  have hfails : danglingImport.run oneNode = .error (.missingEnds "e" ["a"]) oneNode := by rfl
  exact ⟨by rfl, oneNode, hfails, Call.store_eq_of_error hfails⟩

end NodeGraph
