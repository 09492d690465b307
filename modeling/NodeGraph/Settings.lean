import NodeGraph.Files
import NodeGraph.Table

/-!
# Settings

The few things that can be configured, each with a default. They come from four sources: given
directly, from the environment, from an environment file, or the default; the first one counts.
-/

namespace NodeGraph

structure Settings where
  definitionsPath : Option Path
  loadBuiltinDefinitions : Bool
  commentPrefix : String
  generatedHeader : String
  errorHeader : String
  unconnectedInput : String
  duplicateOffset : Double
  logLevel : String

namespace Settings

def standard : Settings where
  definitionsPath := none
  loadBuiltinDefinitions := true
  commentPrefix := "//"
  generatedHeader := "Generated Rust Code"
  errorHeader := "Fix validation errors before generating code"
  unconnectedInput := "Default::default()"
  duplicateOffset := .ofRatio false 20 1
  logLevel := "WARNING"

instance : Inhabited Settings := ⟨standard⟩

open Schema

/-- A path is a text. -/
def path (v : Value) : Checked Path :=
  match text v with
  | .good s => .good (.ofText s)
  | _ => .issue .pathType

/-- Settings from the pairs that are given. -/
def decode (pairs : List (Value × Value)) : Checked Settings :=
  (Checked.good Settings.mk).apply
    (defaulted ["definitions_path"] standard.definitionsPath (optional path) pairs)
  |>.apply (defaulted ["load_builtin_definitions"] standard.loadBuiltinDefinitions bool pairs)
  |>.apply (defaulted ["comment_prefix"] standard.commentPrefix text pairs)
  |>.apply (defaulted ["generated_header"] standard.generatedHeader text pairs)
  |>.apply (defaulted ["error_header"] standard.errorHeader text pairs)
  |>.apply (defaulted ["unconnected_input"] standard.unconnectedInput text pairs)
  |>.apply (defaulted ["duplicate_offset"] standard.duplicateOffset float pairs)
  |>.apply (defaulted ["log_level"] standard.logLevel text pairs)

/-- What the name of a variable starts with, in lower case. -/
def variableStart : String := "pulsargraph_"

/-- The setting that a variable names, in any case. -/
def settingNamed? (name : String) : Option String :=
  let lower := String.ofList (name.toList.map lowerChar)
  if lower.startsWith variableStart then some (lower.drop variableStart.length).toString else none

/-- The settings that variables give, which may be bound to nothing; of variables that name the same
setting the last one counts. -/
def ofVariables (bindings : List (String × Option String)) : List (Value × Value) :=
  let named := Table.ofPairs <| bindings.filterMap fun (name, value) =>
    (settingNamed? name).map fun key => (key, value)
  named.entries.filterMap fun (key, value) =>
    value.map fun s => (Value.text key, Value.text s)

/-- The settings given directly, under names in any case. -/
def ofGiven (given : List (Value × Value)) : List (Value × Value) :=
  (given.map fun
    | (.text name, v) => (Value.text (String.ofList (name.toList.map lowerChar)), v)
    | pair => pair).reverse

/-- Settings from all sources, an earlier one before a later one. -/
def ofSources (given : List (Value × Value)) (environment : List (String × String))
    (file : List (String × Option String)) : Checked Settings :=
  let environment := environment.map fun (name, value) => (name, some value)
  decode (ofGiven given ++ ofVariables environment ++ ofVariables file)

end Settings

end NodeGraph
