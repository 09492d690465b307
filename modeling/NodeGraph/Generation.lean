import NodeGraph.Graph.Order
import NodeGraph.Settings
import NodeGraph.Template
import NodeGraph.Validation

/-!
# Generation

A valid graph becomes source: a header, and for each node in the order of emission its template with
the placeholders replaced. An invalid graph becomes a report, written as a comment.
-/

namespace NodeGraph

/-- The name that an output of a node has in the source. -/
def outputIdentifier (id pin : String) : String := id ++ "_" ++ pin

/-- A value in the source. -/
def Value.render : Value → String
  | .null => ""
  | .bool b => if b then "true" else "false"
  | v => v.display

/-! ## Reports -/

/-- The heading of a report. -/
def Settings.reportStart (s : Settings) : String := s.commentPrefix ++ " " ++ s.errorHeader

def errorReport (errors : List NodeErrors) (s : Settings) : String :=
  let block (e : NodeErrors) : String :=
    s.commentPrefix ++ " Node " ++ e.node ++ ":\n" ++
      "\n".intercalate (e.messages.map fun m => s.commentPrefix ++ " - " ++ m)
  s.reportStart ++ "\n\n" ++ "\n\n".intercalate (errors.map block)

def isErrorReport (text : String) (s : Settings) : Bool :=
  s.reportStart.toList.isPrefixOf text.toList

/-! ## Expansion -/

/-- A node with all that its template can refer to. -/
structure Expansion where
  node : Node
  definition : NodeDefinition
  edges : List Edge
  unconnectedInput : String

namespace Expansion

def field? (x : Expansion) (name : String) : Option String :=
  (x.definition.fields.get? name).map fun _ => (x.node.field name).render

/-- The first edge that ends in an input of the node. -/
def edge? (x : Expansion) (name : String) : Option Edge :=
  x.edges.find? fun e => e.target = x.node.id && (Value.text name).eqv e.targetInput

/-- The text of an input: the name of the output that it is connected to. -/
def input? (x : Expansion) (name : String) : Option String :=
  (x.definition.pins.input? name).map fun _ =>
    match x.edge? name with
    | some e => outputIdentifier e.source e.sourceOutput.display
    | none => x.unconnectedInput

def output? (x : Expansion) (name : String) : Option String :=
  (x.definition.pins.output? name).map fun _ => outputIdentifier x.node.id name

/-- What a reference stands for. -/
inductive Target where
  | text (s : String)
  | output (s : String)
  deriving DecidableEq, Inhabited

def Target.string : Target → String
  | .text s => s
  | .output s => s

def Target.isOutput : Target → Bool
  | .text _ => false
  | .output _ => true

/-- What a reference stands for; a bare name is a field, else an input, else an output, else the
node's id. -/
def resolve (x : Expansion) : Template.Reference → Option Target
  | .field name => (x.field? name).map .text
  | .input name => (x.input? name).map .text
  | .output name => (x.output? name).map .output
  | .bare name =>
    match x.field? name, x.input? name, x.output? name with
    | some s, _, _ => some (.text s)
    | none, some s, _ => some (.text s)
    | none, none, some s => some (.output s)
    | none, none, none => if name = "id" then some (.text x.node.id) else none
  | .unknown => none

/-- The value of a field that the type declares. -/
def fieldValue? (x : Expansion) (name : String) : Option Value :=
  (x.definition.fields.get? name).map fun _ => x.node.field name

/-- The output pin that is wired into an input which the type declares. -/
def wiredPin? (x : Expansion) (name : String) : Option Value :=
  (x.definition.pins.input? name).bind fun _ => (x.edge? name).map (·.sourceOutput)

/-- The value that has to be written for a reference. Other names and ids are texts already. -/
def value? (x : Expansion) : Template.Reference → Option Value
  | .field name => x.fieldValue? name
  | .input name => x.wiredPin? name
  | .bare name => (x.fieldValue? name).or (x.wiredPin? name)
  | .output _ | .unknown => none

/-- Whether what a reference stands for can be written: no integer in it has too many digits. -/
def isWritable (x : Expansion) (ref : Template.Reference) : Bool :=
  (x.value? ref).all (·.isWritable)

/-- The pieces of a template with the placeholders resolved. -/
def targets (x : Expansion) : List Template.Piece → Except Fault (List Target)
  | [] => .ok []
  | .literal c :: rest => do return .text c.toString :: (← x.targets rest)
  | .placeholder inner :: rest =>
    match x.resolve (.ofInner inner) with
    | some target =>
      if x.isWritable (.ofInner inner) then do return target :: (← x.targets rest)
      else .error .wrongShape
    | none =>
      .error (.brokenTemplate x.definition.name
        (String.ofList (Template.Piece.placeholder inner).source) x.node.id)

/-- The source of a node. If the type has one output and the template does not mention it, the
source is the value of the output. -/
def expand (x : Expansion) : Except Fault String := do
  let targets ← x.targets (Template.pieces x.definition.template.toList)
  let code := trimBlank (String.join (targets.map (·.string)))
  match x.definition.pins.outputs with
  | [pin] =>
    if targets.any (·.isOutput) then return code
    else return "let " ++ outputIdentifier x.node.id pin.name ++ " = " ++ code ++ ";"
  | _ => return code

end Expansion

/-! ## Source -/

def expandNode (g : Graph) (r : Registry) (s : Settings) (node : Node) : Except Fault String := do
  let d ← r.require node.type
  Expansion.expand ⟨node, d, g.edges, s.unconnectedInput⟩

/-- The source of a graph, which should be valid. -/
def generateCode (g : Graph) (r : Registry) (s : Settings) : Except Fault String := do
  if g.edges.any fun e => !e.targetInput.isKey then throw .wrongKind
  let order ← g.emissionOrder
  let chunks ← order.mapM (expandNode g r s)
  return "\n".intercalate ((s.commentPrefix ++ " " ++ s.generatedHeader ++ "\n") ::
    chunks.map (· ++ "\n"))

/-- The source of a graph if it is valid, or the report on what is wrong. -/
def generate (g : Graph) (r : Registry) (s : Settings) : Except Fault String := do
  let errors ← validate g r
  if errors.isEmpty then generateCode g r s else return errorReport errors s

end NodeGraph
