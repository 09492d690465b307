import NodeGraph.CommandLine.Words
import NodeGraph.Files
import NodeGraph.Number.Reading

/-!
# Commands

What can be asked for on the command line.
-/

namespace NodeGraph.CommandLine

inductive Command where
  /-- Lists the definitions by category. -/
  | definitions (extra : Option Path)
  /-- Writes an empty project. -/
  | new (file : Path)
  /-- Adds a node to a project; `fields` are assignments to its fields. -/
  | addNode (file : Path) (type : String) (x y : Double) (fields : List String)
      (extra : Option Path)
  /-- Adds an edge from an output to an input, both written as a node and a pin. -/
  | connect (file : Path) (source target : String) (extra : Option Path)
  /-- Reports what is wrong with a project. -/
  | validate (file : Path) (extra : Option Path)
  /-- Prints the plan of a project. -/
  | explain (file : Path) (extra : Option Path)
  /-- Prints the source generated for a project, or writes it to a file. -/
  | generate (file : Path) (out : Option Path) (extra : Option Path)
  deriving DecidableEq, Inhabited

/-- The names of the commands. -/
inductive CommandName where
  | definitions
  | new
  | addNode
  | connect
  | validate
  | explain
  | generate
  deriving DecidableEq, Inhabited

namespace CommandName

def ofText? : String → Option CommandName
  | "definitions" => some .definitions
  | "new" => some .new
  | "add-node" => some .addNode
  | "connect" => some .connect
  | "validate" => some .validate
  | "explain" => some .explain
  | "generate" => some .generate
  | _ => none

/-- The options that a command takes. -/
def options : CommandName → List String
  | .new => []
  | .addNode => ["x", "y", "set", "defs"]
  | .generate => ["out", "defs"]
  | _ => ["defs"]

end CommandName

/-- A coordinate given as an option; zero without one. -/
def coordinate? (w : Words) (name : String) : Option Double :=
  match w.value? name with
  | some text => Double.readLenient? text
  | none => some .zero

def pathOption (w : Words) (name : String) : Option Path := (w.value? name).map .ofText

/-- The command that words ask for; the number of arguments is fixed. -/
def Command.ofWords? (name : CommandName) (w : Words) : Option Command :=
  let extra := pathOption w "defs"
  match name, w.arguments with
  | .definitions, [] => some (.definitions extra)
  | .new, [file] => some (.new (.ofText file))
  | .addNode, [file, type] => do
    let x ← coordinate? w "x"
    let y ← coordinate? w "y"
    return .addNode (.ofText file) type x y (w.values "set") extra
  | .connect, [file, source, target] => some (.connect (.ofText file) source target extra)
  | .validate, [file] => some (.validate (.ofText file) extra)
  | .explain, [file] => some (.explain (.ofText file) extra)
  | .generate, [file] => some (.generate (.ofText file) (pathOption w "out") extra)
  | _, _ => none

end NodeGraph.CommandLine
