import NodeGraph.Schema
import NodeGraph.Yaml.Token

/-!
# Faults

Everything that can stop an operation, as causes; `Fault.message` gives the wording where there is
one.
-/

namespace NodeGraph

/-- Why a text does not define a node type. -/
inductive DefinitionFault where
  | notYaml
  | schema (issues : List Issue)
  | notMapping (kind : String)
  | hookNotText
  | unknownHook (name : String)
  deriving DecidableEq, Inhabited

/-- Why a file could not be read or written. -/
inductive FileFault where
  | notFound
  | isDirectory
  | notDirectory
  | alreadyExists
  | notUtf8
  deriving DecidableEq, Inhabited

inductive Fault where
  /-- The document with this number does not define a node type. -/
  | definition (segment : Option Int) (cause : DefinitionFault)
  | schema (issues : List Issue)
  | yaml (fault : Yaml.Fault)
  /-- A number is too large. -/
  | overflow
  /-- No definition has this name. -/
  | unknownType (name : Value)
  | unknownNode (id : Value)
  | unknownFields (node : Value) (names : List String)
  | duplicateNode (id : String)
  | duplicateEdge (id : String)
  /-- An edge ends at nodes that are not there. -/
  | missingEnds (edge : String) (nodes : List String)
  /-- A template refers to something that its definition does not declare. -/
  | brokenTemplate (type placeholder node : String)
  | unknownDirection (direction : Value)
  /-- No log level has this name. -/
  | unknownLevel (name : String)
  /-- The edges have no order. -/
  | cyclic
  /-- A value is of a kind that the operation does not take. -/
  | wrongKind
  /-- A value does not have the parts that the operation takes, or an integer too many digits. -/
  | wrongShape
  /-- Bytes that should be written are no text. -/
  | notText
  | file (fault : FileFault)
  deriving Inhabited

/-- The wording of a fault in a definition, where the library makes it. -/
def DefinitionFault.message? : DefinitionFault → Option String
  | .notYaml => none
  | .schema _ => none
  | .notMapping kind => some ("expected a mapping, got " ++ kind)
  | .hookNotText => some "'validation' must name a registered hook"
  | .unknownHook name => some ("unknown validation hook '" ++ name ++ "'")

/-- The number of the document in front of a wording. -/
def segmentText : Option Int → String
  | none => ""
  | some n => "document " ++ toString n ++ ": "

/-- The wording of a fault, where the library makes it. -/
def Fault.message? : Fault → Option String
  | .definition segment cause => cause.message?.map (segmentText segment ++ ·)
  | .unknownType name => some ("No definition found for node type: " ++ name.display)
  | .unknownNode id => some ("No node with id '" ++ id.display ++ "'")
  | .unknownFields node names =>
    some ("Node '" ++ node.display ++ "' has no field(s): " ++ ", ".intercalate names)
  | .duplicateNode id => some ("Duplicate node id '" ++ id ++ "'")
  | .duplicateEdge id => some ("Duplicate edge id '" ++ id ++ "'")
  | .missingEnds edge nodes =>
    some ("Edge '" ++ edge ++ "' references missing node(s): " ++ ", ".intercalate nodes)
  | .brokenTemplate type placeholder node =>
    some ("Template of '" ++ type ++ "' references unknown placeholder '" ++ placeholder ++
      "' (node " ++ node ++ ")")
  | .unknownDirection direction =>
    some ("Unknown direction '" ++ direction.display ++ "'. Use one of: outgoing, incoming, both")
  | _ => none

/-- The outcome of a schema reading as that of an operation. -/
def Checked.orFault {α : Type} : Checked α → Except Fault α
  | .good a => .ok a
  | .bad issues => .error (.schema issues)
  | .overflow => .error .overflow

end NodeGraph
