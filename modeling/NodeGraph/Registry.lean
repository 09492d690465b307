import NodeGraph.Definition.Decode
import NodeGraph.Fault
import NodeGraph.Hook
import NodeGraph.Yaml.Document

/-!
# The registry

A registry holds node definitions by name. Definitions come from texts that hold any number of
documents; a document defines one node type and may name a hook. A text is loaded document by
document, so that those before a faulty one stay.

Beside the definitions a registry keeps an index of them by category. The index is made anew at the
end of each change, whether it succeeds or fails, and is out of step with the definitions until
then.
-/

namespace NodeGraph

/-! ## Documents -/

/-- Whether a line separates documents: three hyphens, then only blanks. -/
def isSeparatorLine : List Char → Bool
  | '-' :: '-' :: '-' :: rest => rest.all fun c => c = ' ' || c = '\t' || c = '\r'
  | _ => false

/-- Lines grouped into documents. The line breaks around a separator stay with its neighbours, as
an empty last and an empty first line. -/
def groupLines : List (List Char) → List (List (List Char))
  | [] => [[]]
  | line :: rest =>
    match groupLines rest with
    | [] => [[line]]
    | first :: others =>
      if isSeparatorLine line then [[]] :: ([] :: first) :: others else (line :: first) :: others

/-- The documents of a text, in order, blank ones included. -/
def splitDocuments (text : String) : List String :=
  (groupLines (text.toList.splitOn '\n')).map fun lines =>
    String.ofList (['\n'].intercalate lines)

/-- The hook that a document names under `validation`, and the document without that entry. -/
def takeHook (hooks : HookTable) (pairs : List (Value × Value)) :
    Except DefinitionFault (Option Hook × List (Value × Value)) :=
  let rest := pairs.filter fun (k, _) => !(Value.text "validation").eqv k
  match Value.field? "validation" pairs with
  | none => .ok (none, rest)
  | some .null => .ok (none, rest)
  | some (.text name) =>
    match hooks.get? name with
    | some hook => .ok (hook, rest)
    | none => .error (.unknownHook name)
  | some _ => .error .hookNotText

/-- The definition that a value describes. -/
def NodeDefinition.ofValue (hooks : HookTable) (segment : Option Int) (v : Value) :
    Except Fault NodeDefinition :=
  match v with
  | .map pairs =>
    match takeHook hooks pairs with
    | .error cause => .error (.definition segment cause)
    | .ok (hook, pairs) =>
      match NodeDefinition.decode hook (.map pairs) with
      | .good d => .ok d
      | .bad issues => .error (.definition segment (.schema issues))
      | .overflow => .error .overflow
  | v => .error (.definition segment (.notMapping v.kindName))

/-- The definition in a document; `segment` is its number for messages. -/
def NodeDefinition.parse (hooks : HookTable) (segment : Option Int) (text : String) :
    Except Fault NodeDefinition :=
  match Yaml.read text with
  | .ok v => NodeDefinition.ofValue hooks segment v
  | .error .malformed => .error (.definition segment .notYaml)
  | .error fault => .error (.yaml fault)

/-! ## Registries -/

structure Registry where
  definitions : Table NodeDefinition
  /-- The definitions of each category, as they were when the index was made. -/
  index : Table (List NodeDefinition)

namespace Registry

def empty : Registry := ⟨.empty, .empty⟩

instance : Inhabited Registry := ⟨empty⟩

def get? (r : Registry) (name : String) : Option NodeDefinition := r.definitions.get? name

def require (r : Registry) (name : String) : Except Fault NodeDefinition :=
  match r.get? name with
  | some d => .ok d
  | none => .error (.unknownType (.text name))

def names (r : Registry) : List String := r.definitions.keys

def contains (r : Registry) (name : String) : Bool := r.definitions.contains name

/-- Puts a definition under its name, in place of one that was there. The index stays behind. -/
def add (r : Registry) (d : NodeDefinition) : Registry :=
  { r with definitions := r.definitions.insert d.name d }

/-- The index with a definition at the end of its category's list. -/
def enter (index : Table (List NodeDefinition)) (d : NodeDefinition) :
    Table (List NodeDefinition) :=
  index.insert d.category ((index.get? d.category).getD [] ++ [d])

/-- Makes the index anew from the definitions that are there. -/
def reindex (r : Registry) : Registry :=
  { r with index := r.definitions.values.foldl enter .empty }

/-- The definitions by category, as the index has them. -/
def byCategory (r : Registry) : List (String × List NodeDefinition) := r.index.entries

/-- Loads numbered documents. The registry holds those before the first faulty one; its index stays
behind. -/
def loadSegments (hooks : HookTable) (r : Registry) :
    List (Int × String) → Registry × Except Fault (List String)
  | [] => (r, .ok [])
  | (index, text) :: rest =>
    if isBlankText text then loadSegments hooks r rest
    else
      match NodeDefinition.parse hooks (some index) text with
      | .error fault => (r, .error fault)
      | .ok d =>
        let (r, names) := loadSegments hooks (r.add d) rest
        (r, names.map (d.name :: ·))

/-- The segments with their numbers from zero. -/
def numbered (segments : List String) : List (Int × String) :=
  segments.mapIdx fun i s => (i, s)

/-- Loads all documents of a text; the outcome lists their names. -/
def load (hooks : HookTable) (r : Registry) (text : String) :
    Registry × Except Fault (List String) :=
  let (r, names) := loadSegments hooks r (numbered (splitDocuments text))
  (r.reindex, names)

/-- Loads texts one after the other, up to the first faulty one. -/
def loadAll (hooks : HookTable) (r : Registry) :
    List String → Registry × Except Fault (List String)
  | [] => (r, .ok [])
  | text :: rest =>
    match r.load hooks text with
    | (r, .error fault) => (r, .error fault)
    | (r, .ok names) =>
      let (r, more) := loadAll hooks r rest
      (r, more.map (names ++ ·))

/-- Gives a definition another hook. -/
def attach (r : Registry) (name : String) (hook : Option Hook) :
    Except Fault (Registry × NodeDefinition) := do
  let d ← r.require name
  let d := { d with hook := hook }
  return (reindex { r with definitions := r.definitions.insert name d }, d)

end Registry

end NodeGraph
