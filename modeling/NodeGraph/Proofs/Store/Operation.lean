import NodeGraph.Store

/-!
# Runs of operations

An operation is an edit or a query with its arguments, and a call is an operation together with the
definitions and settings that it finds. A run is a list of calls, of which any may fail: the next
call goes on with the workspace that the failed one leaves.
-/

namespace NodeGraph

/-- The operations of a store, with any values as arguments. -/
inductive Operation where
  | addNode (type position : Value)
  | updateNode (id : Value) (fields : Fields)
  | moveNode (id position : Value)
  | moveNodeTo (id : Value) (position : Position)
  | duplicateNode (id : Value)
  | deleteNode (id : Value)
  | node (id : Value)
  /-- A null id stands for none. -/
  | addEdge (source output target input id : Value)
  | updateEdge (id : Value) (changes : Store.EdgeChanges)
  | deleteEdge (id : Value)
  | edge (id : Value)
  | select (id : Value)
  | toggleHighlight (id : Value)
  | clear
  | importGraph (nodes : List (Checked Node)) (edges : List (Checked Edge))
  | importValues (nodes edges : Value)
  | openProject (text : String)
  | openFile (files : Files) (file : Path)
  | connected (id direction : Value)
  | dependencies (id : Value)
  | validate
  | generate

namespace Store

open Edit

/-- Opens the project that is kept in a file. -/
def openFile (files : Files) (file : Path) : Edit Project := do
  openProject (← orFail (files.readText file))

end Store

open Edit

/-- Runs an operation and returns the id that it allocated, if it allocated one. -/
def Operation.run (r : Registry) (settings : Settings) : Operation → Edit (Option String)
  | .addNode type position => do
    let n ← Store.addNode r type position
    return some n.id
  | .updateNode id fields => do
    let _ ← Store.updateNode r id fields
    return none
  | .moveNode id position => do
    let _ ← Store.moveNode id position
    return none
  | .moveNodeTo id position => do
    let _ ← Store.moveNodeTo id position
    return none
  | .duplicateNode id => do
    let copy ← Store.duplicateNode settings.duplicateOffset id
    return copy.map (·.id)
  | .deleteNode id => do
    let _ ← Store.deleteNode id
    return none
  | .node id => do
    let _ ← orFail ((← store).node? id)
    return none
  | .addEdge source output target input id => do
    let e ← Store.addEdge source output target input id
    return if id.isTruthy then none else some e.id
  | .updateEdge id changes => do
    let _ ← Store.updateEdge id changes
    return none
  | .deleteEdge id => do
    let _ ← Store.deleteEdge id
    return none
  | .edge id => do
    let _ ← orFail ((← store).edge? id)
    return none
  | .select id => do
    let _ ← Store.select id
    return none
  | .toggleHighlight id => do
    let _ ← Store.toggleHighlight id
    return none
  | .clear => do
    let _ ← Store.clear
    return none
  | .importGraph nodes edges => do
    let _ ← Store.importGraph nodes edges
    return none
  | .importValues nodes edges => do
    let _ ← Store.importValues nodes edges
    return none
  | .openProject text => do
    let _ ← Store.openProject text
    return none
  | .openFile files file => do
    let _ ← Store.openFile files file
    return none
  | .connected id direction => do
    let _ ← orFail ((← store).connected id direction)
    return none
  | .dependencies id => do
    let _ := (← store).dependencies id
    return none
  | .validate => do
    let _ ← Store.validate r
    return none
  | .generate => do
    let _ ← Store.generate r settings
    return none

/-- An operation with the definitions and settings at the time of its call. -/
structure Call where
  registry : Registry
  settings : Settings
  operation : Operation

/-- The outcome of a call on a workspace. -/
def Call.run (c : Call) (w : Workspace) : EStateM.Result Fault Workspace (Option String) :=
  EStateM.run (c.operation.run c.registry c.settings) w

namespace Workspace

/-- Nothing was added yet. -/
def start (ids : Ids) : Workspace := ⟨.empty, ids⟩

/-- The workspace that a call leaves, whether it succeeds or fails. -/
def next (w : Workspace) (c : Call) : Workspace :=
  match c.run w with
  | .ok _ w' => w'
  | .error _ w' => w'

/-- The workspace that a run leaves. -/
def after (w : Workspace) (calls : List Call) : Workspace := calls.foldl next w

end Workspace

end NodeGraph
