import NodeGraph.Graph
import NodeGraph.Pattern.Reader
import NodeGraph.Table

/-!
# Node definitions

What a node type is made of: its fields with their kinds and constraints, its input and output pins,
the template of the source it generates, and possibly a hook that checks its nodes.
-/

namespace NodeGraph

inductive FieldKind where
  | text
  | multiline
  | number
  | boolean
  | choice
  deriving DecidableEq, Inhabited

namespace FieldKind

def name : FieldKind → String
  | .text => "text"
  | .multiline => "multiline"
  | .number => "number"
  | .boolean => "boolean"
  | .choice => "enum"

def all : List FieldKind := [.text, .multiline, .number, .boolean, .choice]

def ofName? (s : String) : Option FieldKind := all.find? fun kind => kind.name = s

/-- Other names for kinds, as they are found in definitions. -/
def aliases : List (String × FieldKind) :=
  [("select", .choice), ("string", .text), ("bool", .boolean), ("int", .number),
    ("integer", .number), ("float", .number)]

end FieldKind

/-- The text of a pattern together with the pattern it describes. -/
structure TextPattern where
  source : String
  pattern : Pattern
  reads : Pattern.read source = .ok pattern

/-- Bounds on the value of a field; a bound that is not given does not apply. -/
structure Constraints where
  min : Option Double
  max : Option Double
  minLength : Option Int
  maxLength : Option Int
  pattern : Option TextPattern

structure FieldSpec where
  kind : FieldKind
  label : String
  description : Option String
  options : List String
  default : Value
  required : Bool
  constraints : Option Constraints

/-- The value of the field in a new node. -/
def FieldSpec.initialValue (spec : FieldSpec) : Value :=
  match spec.default with
  | .null => .text ""
  | v => v

structure Pin where
  name : String
  type : String
  description : Option String
  isOptional : Bool
  deriving DecidableEq, Inhabited

/-- The pins of a node type; on each side their names are distinct. -/
structure PinSet where
  inputs : List Pin
  outputs : List Pin
  nodup_inputs : (inputs.map (·.name)).Nodup
  nodup_outputs : (outputs.map (·.name)).Nodup

namespace PinSet

def empty : PinSet := ⟨[], [], by simp, by simp⟩

def input? (pins : PinSet) (name : String) : Option Pin := pins.inputs.find? (·.name = name)

def output? (pins : PinSet) (name : String) : Option Pin := pins.outputs.find? (·.name = name)

end PinSet

/-- A check of the nodes of a type. Hooks are told apart by their serial numbers, since functions
cannot be compared. -/
structure Hook where
  serial : Nat
  check : Node → List String

structure NodeDefinition where
  name : String
  category : String
  description : String
  fields : Table FieldSpec
  pins : PinSet
  template : String
  hook : Option Hook

/-- The fields of a new node. -/
def NodeDefinition.initialFields (d : NodeDefinition) : Fields :=
  d.fields.entries.map fun (name, spec) => (.text name, spec.initialValue)

/-! ## Equality of definitions -/

/-- Whether two optional things are both absent, or both present and related. -/
def sameOption {α : Type} (same : α → α → Bool) : Option α → Option α → Bool
  | none, none => true
  | some a, some b => same a b
  | _, _ => false

def sameNumber (x y : Double) : Bool := x.eqv y || x == y

def Constraints.eqv (a b : Constraints) : Bool :=
  sameOption sameNumber a.min b.min && sameOption sameNumber a.max b.max &&
    a.minLength == b.minLength && a.maxLength == b.maxLength &&
    a.pattern.map (·.source) == b.pattern.map (·.source)

def FieldSpec.eqv (a b : FieldSpec) : Bool :=
  a.kind == b.kind && a.label == b.label && a.description == b.description &&
    a.options == b.options && a.default.eqv b.default && a.required == b.required &&
    sameOption Constraints.eqv a.constraints b.constraints

/-- Whether two tables hold the same values under the same keys, in any order. -/
def Table.eqv {α : Type} (same : α → α → Bool) (a b : Table α) : Bool :=
  a.size == b.size && a.entries.all fun (key, value) => (b.get? key).any (same value)

/-- Equality of definitions, hooks aside. -/
def NodeDefinition.eqv (a b : NodeDefinition) : Bool :=
  a.name == b.name && a.category == b.category && a.description == b.description &&
    a.fields.eqv FieldSpec.eqv b.fields && a.pins.inputs == b.pins.inputs &&
    a.pins.outputs == b.pins.outputs && a.template == b.template

end NodeGraph
