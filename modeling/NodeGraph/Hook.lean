import NodeGraph.Definition
import NodeGraph.Value.Display

/-!
# Hooks

The checks that a definition can name for its nodes: that the field `name` is an identifier of the
language that is generated, and that the field `value` is a literal of the type in the field `type`.
-/

namespace NodeGraph

/-- Hooks by name. A name may also stand for no check at all. -/
abbrev HookTable := Table (Option Hook)

namespace Hook

def isLetter (c : Char) : Bool := ('a' ≤ c && c ≤ 'z') || ('A' ≤ c && c ≤ 'Z') || c = '_'

def isLetterOrDigit (c : Char) : Bool := isLetter c || ('0' ≤ c && c ≤ '9')

/-- A letter or low line, then letters, digits and low lines. -/
def isIdentifier : List Char → Bool
  | [] => false
  | c :: cs => isLetter c && cs.all isLetterOrDigit

/-- The text without one line break at its end. -/
def dropFinalBreak (cs : List Char) : List Char :=
  if cs.getLast? = some '\n' then cs.dropLast else cs

/-- The words that cannot be names in the generated source. -/
def keywords : List String :=
  ["as", "break", "const", "continue", "crate", "else", "enum", "extern", "false", "fn", "for",
    "if", "impl", "in", "let", "loop", "match", "mod", "move", "mut", "pub", "ref", "return",
    "self", "Self", "static", "struct", "super", "trait", "true", "type", "unsafe", "use", "where",
    "while", "async", "await", "dyn"]

/-- The text of a field, empty if its value counts as false. -/
def fieldText (node : Node) (name : String) : String :=
  let value := node.field name
  if value.isTruthy then value.display else ""

/-- A name is an identifier, a line break behind it allowed, and no keyword; without a name there
is nothing to check. -/
def identifierMessages (node : Node) : List String :=
  let name := fieldText node "name"
  if name = "" then []
  else if !isIdentifier (dropFinalBreak name.toList) then
    ["\"" ++ name ++ "\" is not a valid identifier"]
  else if keywords.contains name then ["\"" ++ name ++ "\" is a reserved keyword"]
  else []

/-- The kinds of literals that can be checked. -/
inductive Literal where
  | integer
  | decimal
  | truth
  deriving DecidableEq

def literal? : String → Option Literal
  | "i32" => some .integer
  | "i64" => some .integer
  | "f32" => some .decimal
  | "f64" => some .decimal
  | "bool" => some .truth
  | _ => none

def dropMinus : List Char → List Char
  | '-' :: cs => cs
  | cs => cs

def isDigits (cs : List Char) : Bool := !cs.isEmpty && cs.all isDecimalDigit

/-- The texts of a kind of literal; digits may be of any script. -/
def Literal.holds : Literal → List Char → Bool
  | .integer, cs => isDigits (dropMinus cs)
  | .decimal, cs =>
    let body := dropMinus cs
    let whole := body.takeWhile (· ≠ '.')
    match body.dropWhile (· ≠ '.') with
    | [] => isDigits whole
    | _ :: fraction => isDigits whole && isDigits fraction
  | .truth, cs => cs = "true".toList || cs = "false".toList

/-- The text of a value as a literal. -/
def literalText : Value → String
  | .bool b => if b then "true" else "false"
  | v => v.display

/-- A value that is given is a literal of the node's type, a line break behind it allowed. -/
def literalMessages (node : Node) : List String :=
  let value := node.field "value"
  match literal? (fieldText node "type"), value with
  | none, _ => []
  | _, .null => []
  | _, .text "" => []
  | some kind, value =>
    let text := literalText value
    if kind.holds (dropFinalBreak text.toList) then []
    else ["Value \"" ++ text ++ "\" is not a valid " ++ (node.field "type").display ++ " literal"]

def identifier : Hook := ⟨0, identifierMessages⟩

def typedLiteral : Hook := ⟨1, fun node => identifierMessages node ++ literalMessages node⟩

/-- The hooks that definitions can name from the start. -/
def builtin : HookTable :=
  .ofPairs [("identifier", some identifier), ("typed_literal", some typedLiteral)]

end Hook

/-- The name under which a hook is first entered. -/
def HookTable.nameOf? (hooks : HookTable) (hook : Hook) : Option String :=
  (hooks.entries.find? fun (_, entry) => entry.any (·.serial = hook.serial)).map (·.1)

end NodeGraph
