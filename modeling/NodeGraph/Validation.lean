import NodeGraph.Graph.Cycle
import NodeGraph.Pattern.Matching
import NodeGraph.Registry
import NodeGraph.Value.Plain

/-!
# Validation

What is wrong with a graph, node by node: missing or unsuitable field values, what the hooks say,
inputs that are not connected, edges that do not fit their pins, and cycles. A graph without
messages can be generated.
-/

namespace NodeGraph

/-! ## Field values -/

/-- Whether a value counts as missing for a required field: null, blank, false, zero or empty. -/
def Value.isEmpty : Value → Bool
  | .null => true
  | .text s => isBlankText s
  | .bool b => !b
  | .int n => n == 0
  | .float x => x.isZero
  | .list items | .tuple items | .set items => items.isEmpty
  | .map entries => entries.isEmpty
  | _ => false

/-- Whether a value counts as not given: null or blank. -/
def Value.isUnset : Value → Bool
  | .null => true
  | .text s => isBlankText s
  | _ => false

/-- A bound in a message: whole numbers without a point. -/
def boundText (x : Double) : String :=
  match x.toInt? with
  | some n => toString n
  | none => x.text

/-- The number that a value is or reads as. A truth value is none. -/
def Value.number? : Value → Except Fault (Option Double)
  | .int n =>
    match Double.ofInt? n with
    | some x => .ok (some x)
    | none => .error .overflow
  | .float x => .ok (some x)
  | .text s => .ok (Double.readLenient? s)
  | .bytes bs => .ok (Double.readBytes? bs)
  | _ => .ok none

/-- `message` if `fails` holds. -/
def complain (fails : Bool) (message : String) : List String := if fails then [message] else []

/-- A field's name in a message. -/
def fieldLabel (name : String) : String := "Field \"" ++ name ++ "\" "

def choiceMessages (name : String) (spec : FieldSpec) (value : Value) : List String :=
  complain (!spec.options.isEmpty && !spec.options.contains value.display)
    (fieldLabel name ++ "must be one of: " ++ ", ".intercalate spec.options)

def numberMessages (name : String) (spec : FieldSpec) (value : Value) :
    Except Fault (List String) := do
  match ← value.number? with
  | none => return [fieldLabel name ++ "must be a number"]
  | some x =>
    let bounds := spec.constraints
    let below := (bounds.bind (·.min)).toList.flatMap fun least =>
      complain (x.lt least) (fieldLabel name ++ "must be >= " ++ boundText least)
    let above := (bounds.bind (·.max)).toList.flatMap fun most =>
      complain (most.lt x) (fieldLabel name ++ "must be <= " ++ boundText most)
    return below ++ above

def textMessages (name : String) (rules : Constraints) (value : Value) : List String :=
  let text := value.display
  let size : Int := text.length
  let short := rules.minLength.toList.flatMap fun least =>
    complain (size < least) (fieldLabel name ++ "must be at least " ++ toString least ++
      " characters")
  let long := rules.maxLength.toList.flatMap fun most =>
    complain (most < size) (fieldLabel name ++ "must be at most " ++ toString most ++
      " characters")
  let shape := rules.pattern.toList.flatMap fun p =>
    complain (!p.pattern.matchesAll text) (fieldLabel name ++ "does not match pattern " ++ p.source)
  short ++ long ++ shape

/-- Messages about the text of a value. A value has none if one of its integers cannot be written. -/
def aboutText (value : Value) (messages : List String) : Except Fault (List String) :=
  if value.isWritable then .ok messages else .error .wrongShape

/-- The bounds that a text of some length violates; the messages about it show them. -/
def Constraints.violated (rules : Constraints) (size : Int) : List Int :=
  rules.minLength.toList.filter (size < ·) ++ rules.maxLength.toList.filter (· < size)

/-- The messages about a value whose text is bound by rules. There are none if a bound that stands in
one of them cannot be written. -/
def ruledMessages (name : String) (rules : Constraints) (value : Value) :
    Except Fault (List String) :=
  if (rules.violated value.display.length).all fun bound => (Value.int bound).isWritable then
    aboutText value (textMessages name rules value)
  else .error .wrongShape

/-- What is wrong with a value that is given for a field. -/
def constraintMessages (name : String) (spec : FieldSpec) (value : Value) :
    Except Fault (List String) :=
  match spec.kind with
  | .choice =>
    if spec.options.isEmpty then .ok [] else aboutText value (choiceMessages name spec value)
  | .number => numberMessages name spec value
  | .boolean => .ok []
  | .text | .multiline =>
    match spec.constraints with
    | none => .ok []
    | some rules => ruledMessages name rules value

/-! ## Nodes -/

def requiredMessages (node : Node) (d : NodeDefinition) : List String :=
  d.fields.entries.flatMap fun (name, spec) =>
    complain (spec.required && (node.field name).isEmpty) (fieldLabel name ++ "is required")

def hookMessages (node : Node) (d : NodeDefinition) : List String :=
  d.hook.toList.flatMap fun hook => hook.check node

/-- The messages about the values that are given, in the order of the fields. -/
def valueMessages (node : Node) : List (String × FieldSpec) → Except Fault (List String)
  | [] => .ok []
  | (name, spec) :: rest => do
    let value := node.field name
    let messages ← if value.isUnset then pure [] else constraintMessages name spec value
    return messages ++ (← valueMessages node rest)

def nodeMessages (node : Node) (d : NodeDefinition) : Except Fault (List String) := do
  let values ← valueMessages node d.fields.entries
  return requiredMessages node d ++ hookMessages node d ++ values

/-! ## Connections -/

/-- The definitions of a graph's nodes by id; of nodes with the same id the last one counts. -/
abbrev Definitions := String → Option NodeDefinition

def Registry.definitionsOf (r : Registry) (g : Graph) : Definitions := fun id =>
  (g.node? id).bind fun node => r.get? node.type

/-- The output pin that an edge starts from. -/
def Edge.outputPin? (e : Edge) (d : NodeDefinition) : Option Pin :=
  match e.sourceOutput with
  | .text name => d.pins.output? name
  | _ => none

/-- The input pin that an edge ends in. -/
def Edge.inputPin? (e : Edge) (d : NodeDefinition) : Option Pin :=
  match e.targetInput with
  | .text name => d.pins.input? name
  | _ => none

/-- Whether some edge ends in an input of a node. -/
def Graph.isConnected (g : Graph) (id pin : String) : Bool :=
  g.edges.any fun e => e.target = id && (Value.text pin).eqv e.targetInput

def unconnectedMessages (g : Graph) (definitions : Definitions) (id : String) : List String :=
  (definitions id).toList.flatMap fun d => d.pins.inputs.flatMap fun pin =>
    complain (!pin.isOptional && !g.isConnected id pin.name)
      ("Required input \"" ++ pin.name ++ "\" is not connected")

/-- A message about the node with an id. -/
structure Remark where
  node : String
  message : String

def mismatchMessages : Option Pin → Option Pin → List String
  | some output, some input => complain (output.type ≠ input.type)
      ("Type mismatch: cannot connect " ++ output.type ++ " to " ++ input.type)
  | _, _ => []

/-- What an edge makes wrong at the nodes where it starts and ends. -/
def edgeRemarks (g : Graph) (definitions : Definitions) (e : Edge) : List Remark :=
  let known (v : String) : Bool := g.ids.contains v
  if !known e.source || !known e.target then
    ([e.source, e.target].filter known).map fun v =>
      ⟨v, "Edge " ++ e.id ++ " references a missing node"⟩
  else
    let sourcePin := (definitions e.source).map e.outputPin?
    let targetPin := (definitions e.target).map e.inputPin?
    let output := complain (sourcePin.any (·.isNone))
      ("Unknown output pin \"" ++ e.sourceOutput.display ++ "\" on " ++ e.source)
    let input := complain (targetPin.any (·.isNone))
      ("Unknown input pin \"" ++ e.targetInput.display ++ "\"")
    let mismatch := mismatchMessages sourcePin.join targetPin.join
    output.map (⟨e.source, ·⟩) ++ (input ++ mismatch).map (⟨e.target, ·⟩)

/-- Whether the messages about an edge can be written: a pin that is not declared stands in them. -/
def edgeIsWritable (g : Graph) (definitions : Definitions) (e : Edge) : Bool :=
  let known (v : String) : Bool := g.ids.contains v
  if !known e.source || !known e.target then true
  else
    let sourcePin := (definitions e.source).map e.outputPin?
    let targetPin := (definitions e.target).map e.inputPin?
    (!sourcePin.any (·.isNone) || e.sourceOutput.isWritable) &&
      (!targetPin.any (·.isNone) || e.targetInput.isWritable)

/-- What the nodes of a component are told about a cycle in it. -/
def cycleRemarks (g : Graph) (component : List String) : List Remark :=
  match g.ids.filter (component.contains ·) with
  | [] => []
  | start :: others =>
    if g.hasCycle component then
      let path := " -> ".intercalate (g.cycleFrom component start)
      (start :: others).map fun id => ⟨id, "Node is part of a cycle: " ++ path⟩
    else []

/-- The messages so far, under the ids of the nodes. -/
abbrev MessageLog := Table (List String)

namespace MessageLog

/-- No messages about any node. -/
def start (ids : List String) : MessageLog := .ofPairs (ids.map fun id => (id, []))

/-- The messages about a node, the earliest first. -/
def messages (log : MessageLog) (id : String) : List String := (log.get? id).getD []

/-- Writes a remark behind the other messages about its node. -/
def add (log : MessageLog) (remark : Remark) : MessageLog :=
  log.insert remark.node (log.messages remark.node ++ [remark.message])

def addAll (log : MessageLog) (remarks : List Remark) : MessageLog := remarks.foldl add log

end MessageLog

/-- The messages about all connections: first the inputs of the nodes are looked at, then the edges
one by one, then the components. -/
def connectionLog (g : Graph) (definitions : Definitions) : MessageLog :=
  let inputs := g.nodes.foldl (fun log node =>
    log.addAll ((unconnectedMessages g definitions node.id).map (⟨node.id, ·⟩)))
    (MessageLog.start g.ids)
  let edges := g.edges.foldl (fun log e => log.addAll (edgeRemarks g definitions e)) inputs
  g.components.foldl (fun log component => log.addAll (cycleRemarks g component)) edges

/-! ## Graphs -/

/-- The messages about one node; there is always at least one. -/
structure NodeErrors where
  node : String
  messages : List String
  deriving DecidableEq, Inhabited

/-- All messages about a node, those about its connections from the log. -/
def messagesOf (log : MessageLog) (definitions : Definitions) (node : Node) :
    Except Fault (List String) := do
  let own ← match definitions node.id with
    | none => pure ["Unknown node type \"" ++ node.type ++ "\""]
    | some d => nodeMessages node d
  return own ++ log.messages node.id

/-- The nodes with messages. -/
def errorsOf (log : MessageLog) (definitions : Definitions) :
    List Node → Except Fault (List NodeErrors)
  | [] => .ok []
  | node :: rest => do
    let messages ← messagesOf log definitions node
    let others ← errorsOf log definitions rest
    return if messages.isEmpty then others else ⟨node.id, messages⟩ :: others

/-- What is wrong with a graph, in the order of its nodes. A pin of an edge has to be a value that
can be looked up, and the messages about the edges come before those about the nodes. -/
def validate (g : Graph) (r : Registry) : Except Fault (List NodeErrors) :=
  if g.edges.all (·.targetInput.isKey) then
    if g.edges.all (edgeIsWritable g (r.definitionsOf g)) then
      errorsOf (connectionLog g (r.definitionsOf g)) (r.definitionsOf g) g.nodes
    else .error .wrongShape
  else .error .wrongKind

/-- Whether a graph is valid, and the report on it line by line. -/
def validationReport (g : Graph) (r : Registry) : Except Fault (Bool × List String) := do
  let errors ← validate g r
  if errors.isEmpty then
    return (true, ["OK: " ++ toString g.nodes.length ++ " node(s) and " ++
      toString g.edges.length ++ " edge(s) are valid."])
  else
    return (false, errors.flatMap fun e => e.messages.map fun m => "ERR: " ++ e.node ++ ": " ++ m)

end NodeGraph
