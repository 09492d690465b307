/-!
# Built-in definitions

The packs of definitions that a registry can start from, as texts in the format of definitions:
arithmetic, control flow, variables, functions and types.
-/

namespace NodeGraph.Builtin

/-- Lines, each ended by a line break. -/
def lines (ls : List String) : String := String.join (ls.map (· ++ "\n"))

def arithmetic : String := lines [
  "name: Constant",
  "category: Math",
  "description: A numeric literal",
  "fields:",
  "  value:",
  "    type: number",
  "    label: Value",
  "    default: 0",
  "pins:",
  "  outputs:",
  "    - name: value",
  "      type: f64",
  "template: \"\x7b\x7bfields.value\x7d\x7d_f64\"",
  "---",
  "name: Add",
  "category: Math",
  "description: Adds two numbers",
  "fields: \x7b\x7d",
  "pins:",
  "  inputs:",
  "    - name: a",
  "      type: f64",
  "    - name: b",
  "      type: f64",
  "  outputs:",
  "    - name: result",
  "      type: f64",
  "template: \"\x7b\x7ba\x7d\x7d + \x7b\x7bb\x7d\x7d\"",
  "---",
  "name: Subtract",
  "category: Math",
  "description: Subtracts B from A",
  "fields: \x7b\x7d",
  "pins:",
  "  inputs:",
  "    - name: a",
  "      type: f64",
  "    - name: b",
  "      type: f64",
  "  outputs:",
  "    - name: result",
  "      type: f64",
  "template: \"\x7b\x7ba\x7d\x7d - \x7b\x7bb\x7d\x7d\"",
  "---",
  "name: Multiply",
  "category: Math",
  "description: Multiplies two numbers",
  "fields: \x7b\x7d",
  "pins:",
  "  inputs:",
  "    - name: a",
  "      type: f64",
  "    - name: b",
  "      type: f64",
  "  outputs:",
  "    - name: result",
  "      type: f64",
  "template: \"\x7b\x7ba\x7d\x7d * \x7b\x7bb\x7d\x7d\"",
  "---",
  "name: Divide",
  "category: Math",
  "description: Divides A by B",
  "fields: \x7b\x7d",
  "pins:",
  "  inputs:",
  "    - name: a",
  "      type: f64",
  "    - name: b",
  "      type: f64",
  "  outputs:",
  "    - name: result",
  "      type: f64",
  "template: \"\x7b\x7ba\x7d\x7d / \x7b\x7bb\x7d\x7d\"",
  "---",
  "name: Clamp",
  "category: Math",
  "description: Restricts a number to a range",
  "fields:",
  "  min:",
  "    type: number",
  "    label: Minimum",
  "    default: 0",
  "  max:",
  "    type: number",
  "    label: Maximum",
  "    default: 1",
  "pins:",
  "  inputs:",
  "    - name: value",
  "      type: f64",
  "  outputs:",
  "    - name: result",
  "      type: f64",
  "template: \"\x7b\x7bvalue\x7d\x7d.clamp(\x7b\x7bmin\x7d\x7d_f64, \x7b\x7bmax\x7d\x7d_f64)\""]

def controlFlow : String := lines [
  "name: Greater Than",
  "category: Logic",
  "description: True when A is greater than B",
  "fields: \x7b\x7d",
  "pins:",
  "  inputs:",
  "    - name: a",
  "      type: f64",
  "    - name: b",
  "      type: f64",
  "  outputs:",
  "    - name: result",
  "      type: bool",
  "template: \"\x7b\x7ba\x7d\x7d > \x7b\x7bb\x7d\x7d\"",
  "---",
  "name: Less Than",
  "category: Logic",
  "description: True when A is less than B",
  "fields: \x7b\x7d",
  "pins:",
  "  inputs:",
  "    - name: a",
  "      type: f64",
  "    - name: b",
  "      type: f64",
  "  outputs:",
  "    - name: result",
  "      type: bool",
  "template: \"\x7b\x7ba\x7d\x7d < \x7b\x7bb\x7d\x7d\"",
  "---",
  "name: Equals",
  "category: Logic",
  "description: True when A equals B",
  "fields: \x7b\x7d",
  "pins:",
  "  inputs:",
  "    - name: a",
  "      type: f64",
  "    - name: b",
  "      type: f64",
  "  outputs:",
  "    - name: result",
  "      type: bool",
  "template: \"\x7b\x7ba\x7d\x7d == \x7b\x7bb\x7d\x7d\"",
  "---",
  "name: AND Gate",
  "category: Logic",
  "description: Logical and",
  "fields: \x7b\x7d",
  "pins:",
  "  inputs:",
  "    - name: a",
  "      type: bool",
  "    - name: b",
  "      type: bool",
  "  outputs:",
  "    - name: result",
  "      type: bool",
  "template: \"\x7b\x7ba\x7d\x7d && \x7b\x7bb\x7d\x7d\"",
  "---",
  "name: OR Gate",
  "category: Logic",
  "description: Logical or",
  "fields: \x7b\x7d",
  "pins:",
  "  inputs:",
  "    - name: a",
  "      type: bool",
  "    - name: b",
  "      type: bool",
  "  outputs:",
  "    - name: result",
  "      type: bool",
  "template: \"\x7b\x7ba\x7d\x7d || \x7b\x7bb\x7d\x7d\"",
  "---",
  "name: NOT Gate",
  "category: Logic",
  "description: Logical negation",
  "fields: \x7b\x7d",
  "pins:",
  "  inputs:",
  "    - name: input",
  "      type: bool",
  "  outputs:",
  "    - name: result",
  "      type: bool",
  "template: \"!\x7b\x7binput\x7d\x7d\"",
  "---",
  "name: If Statement",
  "category: Flow Control",
  "description: Runs one of two statements depending on a condition",
  "fields:",
  "  then:",
  "    type: multiline",
  "    label: Then",
  "    required: true",
  "  otherwise:",
  "    type: multiline",
  "    label: Else",
  "    default: \"\"",
  "pins:",
  "  inputs:",
  "    - name: condition",
  "      type: bool",
  "template: |",
  "  if \x7b\x7bcondition\x7d\x7d \x7b",
  "      \x7b\x7bthen\x7d\x7d",
  "  \x7d else \x7b",
  "      \x7b\x7botherwise\x7d\x7d",
  "  \x7d",
  "---",
  "name: While Loop",
  "category: Flow Control",
  "description: Repeats a statement while a condition holds",
  "fields:",
  "  body:",
  "    type: multiline",
  "    label: Body",
  "    required: true",
  "  max_iterations:",
  "    type: number",
  "    label: Iteration limit",
  "    default: 1000",
  "    validation:",
  "      min: 1",
  "      max: 1000000",
  "pins:",
  "  inputs:",
  "    - name: condition",
  "      type: bool",
  "template: |",
  "  let mut \x7b\x7bid\x7d\x7d_guard = 0;",
  "  while \x7b\x7bcondition\x7d\x7d && \x7b\x7bid\x7d\x7d_guard < \x7b\x7bmax_iterations\x7d\x7d \x7b",
  "      \x7b\x7bbody\x7d\x7d",
  "      \x7b\x7bid\x7d\x7d_guard += 1;",
  "  \x7d"]

def bindings : String := lines [
  "name: Number Variable",
  "category: Variables",
  "description: Declares a mutable f64 variable",
  "fields:",
  "  name:",
  "    type: text",
  "    label: Variable Name",
  "    description: Unique identifier for the variable",
  "    required: true",
  "    validation:",
  "      maxLength: 64",
  "  value:",
  "    type: number",
  "    label: Initial Value",
  "    default: 0",
  "validation: identifier",
  "pins:",
  "  outputs:",
  "    - name: value",
  "      type: f64",
  "template: |",
  "  let mut \x7b\x7bname\x7d\x7d: f64 = \x7b\x7bfields.value\x7d\x7d_f64;",
  "  let \x7b\x7boutputs.value\x7d\x7d = \x7b\x7bname\x7d\x7d;",
  "---",
  "name: Boolean Variable",
  "category: Variables",
  "description: Declares a mutable bool variable",
  "fields:",
  "  name:",
  "    type: text",
  "    label: Variable Name",
  "    required: true",
  "    validation:",
  "      maxLength: 64",
  "  value:",
  "    type: boolean",
  "    label: Initial Value",
  "    default: false",
  "validation: identifier",
  "pins:",
  "  outputs:",
  "    - name: value",
  "      type: bool",
  "template: |",
  "  let mut \x7b\x7bname\x7d\x7d: bool = \x7b\x7bfields.value\x7d\x7d;",
  "  let \x7b\x7boutputs.value\x7d\x7d = \x7b\x7bname\x7d\x7d;",
  "---",
  "name: Set Variable",
  "category: Variables",
  "description: Assigns a new value to an existing f64 variable",
  "fields:",
  "  name:",
  "    type: text",
  "    label: Variable Name",
  "    required: true",
  "validation: identifier",
  "pins:",
  "  inputs:",
  "    - name: value",
  "      type: f64",
  "template: \"\x7b\x7bname\x7d\x7d = \x7b\x7bvalue\x7d\x7d;\""]

def functions : String := lines [
  "name: Print Number",
  "category: Functions",
  "description: Prints a number to stdout",
  "fields:",
  "  label:",
  "    type: text",
  "    label: Label",
  "    default: \"\"",
  "    validation:",
  "      pattern: \"[^\\\"\x7b\x7d]*\"",
  "pins:",
  "  inputs:",
  "    - name: value",
  "      type: f64",
  "template: 'println!(\"\x7b\x7blabel\x7d\x7d\x7b\x7d\", \x7b\x7bvalue\x7d\x7d);'",
  "---",
  "name: Print Text",
  "category: Functions",
  "description: Prints a string to stdout",
  "fields: \x7b\x7d",
  "pins:",
  "  inputs:",
  "    - name: value",
  "      type: String",
  "template: 'println!(\"\x7b\x7d\", \x7b\x7bvalue\x7d\x7d);'",
  "---",
  "name: Function Call",
  "category: Functions",
  "description: Calls a free function taking and returning f64",
  "fields:",
  "  name:",
  "    type: text",
  "    label: Function Name",
  "    required: true",
  "validation: identifier",
  "pins:",
  "  inputs:",
  "    - name: arg",
  "      type: f64",
  "      optional: true",
  "  outputs:",
  "    - name: result",
  "      type: f64",
  "template: \"\x7b\x7bname\x7d\x7d(\x7b\x7barg\x7d\x7d)\"",
  "---",
  "name: Function",
  "category: Functions",
  "description: Declares a function with a single f64 return value",
  "fields:",
  "  name:",
  "    type: text",
  "    label: Function Name",
  "    required: true",
  "  returnType:",
  "    type: select",
  "    label: Return Type",
  "    options: [f64, i32, bool, String]",
  "    default: f64",
  "  body:",
  "    type: multiline",
  "    label: Body",
  "    required: true",
  "validation: identifier",
  "pins: \x7b\x7d",
  "template: |",
  "  fn \x7b\x7bname\x7d\x7d() -> \x7b\x7breturnType\x7d\x7d \x7b",
  "      \x7b\x7bbody\x7d\x7d",
  "  \x7d"]

def types : String := lines [
  "name: String Literal",
  "category: Types",
  "description: A string constant",
  "fields:",
  "  text:",
  "    type: text",
  "    label: Text",
  "    validation:",
  "      pattern: \"[^\\\"]*\"",
  "pins:",
  "  outputs:",
  "    - name: value",
  "      type: String",
  "template: 'String::from(\"\x7b\x7btext\x7d\x7d\")'",
  "---",
  "name: Number To String",
  "category: Types",
  "description: Formats a number as a String",
  "fields: \x7b\x7d",
  "pins:",
  "  inputs:",
  "    - name: value",
  "      type: f64",
  "  outputs:",
  "    - name: result",
  "      type: String",
  "template: \"\x7b\x7bvalue\x7d\x7d.to_string()\"",
  "---",
  "name: Bool To Number",
  "category: Types",
  "description: Converts true/false to 1.0/0.0",
  "fields: \x7b\x7d",
  "pins:",
  "  inputs:",
  "    - name: value",
  "      type: bool",
  "  outputs:",
  "    - name: result",
  "      type: f64",
  "template: \"if \x7b\x7bvalue\x7d\x7d \x7b 1.0 \x7d else \x7b 0.0 \x7d\"",
  "---",
  "name: Typed Constant",
  "category: Types",
  "description: Declares a constant of a primitive type",
  "fields:",
  "  name:",
  "    type: text",
  "    label: Constant Name",
  "    required: true",
  "  type:",
  "    type: enum",
  "    label: Type",
  "    options: [i32, i64, f32, f64, bool]",
  "    default: i32",
  "  value:",
  "    type: text",
  "    label: Value",
  "    required: true",
  "validation: typed_literal",
  "pins: \x7b\x7d",
  "template: \"const \x7b\x7bname\x7d\x7d: \x7b\x7btype\x7d\x7d = \x7b\x7bfields.value\x7d\x7d;\""]

/-- The packs in the order in which they are loaded. -/
def packs : List String := [arithmetic, controlFlow, bindings, functions, types]

end NodeGraph.Builtin
