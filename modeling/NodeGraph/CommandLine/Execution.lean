import NodeGraph.CommandLine.Command
import NodeGraph.CommandLine.Console
import NodeGraph.Plan
import NodeGraph.Registry.Builtin
import NodeGraph.Registry.Folder
import NodeGraph.Settings.EnvironmentFile

/-!
# Executing commands

A command works on a console in an environment. `runLine` takes the words of a whole command line.
-/

namespace NodeGraph.CommandLine

/-- The variables of the environment. -/
abbrev Environment := List (String × String)

/-! ## What commands start from -/

/-- The environment file. -/
def environmentFile : Path := .ofText ".env"

/-- The settings from the environment and the environment file. -/
def settings (env : Environment) : Run Settings := do
  let fs ← Run.files
  let text ← if fs.contains environmentFile && !fs.isDirectory environmentFile
    then Run.orFail (fs.readText environmentFile) else pure ""
  Run.orFail (Settings.ofSources [] env (EnvironmentFile.read env text)).orFault

/-- A wording for every fault: its own one, or else its kind. -/
def faultText : Fault → String
  | .definition segment .notYaml => segmentText segment ++ "not a document"
  | .definition segment (.schema _) => segmentText segment ++ "not a definition"
  | .schema _ => "not a valid description"
  | .yaml _ => "not a readable document"
  | .overflow => "a number is too large"
  | .unknownLevel name => "Unknown level: " ++ name
  | .cyclic => "the edges have no order"
  | .notText => "bytes that are no text"
  | .file .notFound => "no such file or directory"
  | .file .isDirectory => "is a directory"
  | .file .notDirectory => "not a directory"
  | .file .alreadyExists => "file exists"
  | .file .notUtf8 => "the file is no text"
  | f => f.message?.getD "a value of the wrong kind"

/-- Goes on with a registry, or ends because of a faulty definition. -/
def loaded : Registry × Except Fault (List String) → Run Registry
  | (r, .ok _) => return r
  | (_, .error (.definition segment cause)) =>
    Run.refuse 2 ("[bold red]Bad node definition[/]\n" ++ faultText (.definition segment cause))
  | (_, .error f) => throw (.fault f)

/-- Loads a folder or a file. -/
def loadPath (r : Registry) (p : Path) : Run Registry := do
  let fs ← Run.files
  loaded (if fs.isDirectory p then r.loadDirectory Hook.builtin fs p
    else r.loadFile Hook.builtin fs p)

/-- The registry for a command: the packs that come with the program unless they are switched off,
what the settings name, and what the command names. -/
def registry (env : Environment) (extra : Option Path) : Run Registry := do
  let s ← settings env
  let packs := if s.loadBuiltinDefinitions then Builtin.packs else []
  let r ← loaded (Registry.empty.loadAll Hook.builtin packs)
  (s.definitionsPath.toList ++ extra.toList).foldlM loadPath r

def loadProject (file : Path) : Run Project := do
  Run.orFail (Project.ofText (← Run.orFail ((← Run.files).readText file)))

/-- The registry, and a store with the graph of a project. -/
def openStore (env : Environment) (file : Path) (extra : Option Path) :
    Run (Registry × Project × Store) := do
  let r ← registry env extra
  let text ← Run.orFail ((← Run.files).readText file)
  let (project, s) ← Run.orFail (← Run.edit .empty (Store.openProject text))
  return (r, project, s)

def saveStore (s : Store) (file : Path) (project : Project) : Run Unit := do
  Run.writeFile file (← Run.orFail (s.save (.map project.metadata)))

/-! ## Words with a meaning -/

/-- An assignment to a field: a name, an equals sign, and a value as in a document. -/
def assignment (word : String) : Run (Value × Value) := do
  match cutAt '=' word.toList with
  | (_, none) => throw (.usage (some ("Expected key=value, got '" ++ word ++ "'")))
  | (key, some raw) =>
    let key := trimBlank (String.ofList key)
    let raw := String.ofList raw
    if isBlankText raw then return (.text key, .text "")
    else return (.text key, ← Run.orFail (readDocument raw))

/-- The end of an edge: a node, a dot and a pin. The pin has no dot. -/
def endpoint (word : String) : Run (String × String) := do
  match Template.splitLastDot word.toList with
  | (some (c :: node), d :: pin) => return (String.ofList (c :: node), String.ofList (d :: pin))
  | _ => throw (.usage (some ("Expected NODE_ID.PIN, got '" ++ word ++ "'")))

/-! ## The commands -/

def pinText (p : Pin) : String := p.name ++ ": " ++ p.type

def definitionRow (category : String) (d : NodeDefinition) : List String :=
  [category, d.name, ", ".intercalate (d.pins.inputs.map pinText),
    ", ".intercalate (d.pins.outputs.map pinText), d.description]

def definitionTable (r : Registry) : Printed :=
  .table "Node Definitions" ["Category", "Name", "Inputs", "Outputs", "Description"]
    (r.byCategory.flatMap fun (category, ds) => ds.map (definitionRow category))

def reportTable (ok : Bool) (messages : List String) : Printed :=
  .table "Validation Report" ["Status", "Message"]
    (messages.map fun m => [if ok then "OK" else "ERR", m])

def newProject (file : Path) : Run Unit := do
  if (← Run.files).contains file then
    Run.refuse 1 ("[bold red]" ++ file.text ++ " already exists[/]")
  Run.makeRoom file
  Run.writeFile file (← Run.orFail (Store.empty.save .null))
  Run.print (.panel ("Created empty project [cyan]" ++ file.text ++ "[/]"))

def addNode (env : Environment) (file : Path) (type : String) (x y : Double)
    (fields : List String) (extra : Option Path) : Run Unit := do
  let (r, project, s) ← openStore env file extra
  let position := Value.tuple [.float x, .float y]
  let (node, s) ← Run.tryEdit s (Store.addNode r (.text type) position)
  let s ← if fields.isEmpty then pure s else do
    let given ← fields.mapM assignment
    let update := given.foldl (fun entries (k, v) => Value.insert k v entries) []
    pure (← Run.tryEdit s (Store.updateNode r (.text node.id) update)).2
  saveStore s file project
  Run.print (.line node.id)

def connect (env : Environment) (file : Path) (source target : String) (extra : Option Path) :
    Run Unit := do
  let (_, project, s) ← openStore env file extra
  let (sourceNode, output) ← endpoint source
  let (targetNode, input) ← endpoint target
  let (edge, s) ← Run.tryEdit s
    (Store.addEdge (.text sourceNode) (.text output) (.text targetNode) (.text input) .null)
  saveStore s file project
  Run.print (.line edge.id)

def validateProject (env : Environment) (file : Path) (extra : Option Path) : Run Unit := do
  let r ← registry env extra
  let project ← loadProject file
  let (ok, messages) ← Run.orFail (validationReport project.graph r)
  Run.print (reportTable ok messages)
  if !ok then throw (.exit 1)

def explain (env : Environment) (file : Path) (extra : Option Path) : Run Unit := do
  let project ← loadProject file
  let r ← registry env extra
  Run.write (← Run.orFail (project.graph.plan (some r)))

def generateSource (env : Environment) (file : Path) (out extra : Option Path) : Run Unit := do
  let r ← registry env extra
  let project ← loadProject file
  let s ← settings env
  let code ← Run.orFail (generate project.graph r s)
  let failed := isErrorReport code s
  match out with
  | some path =>
    Run.makeRoom path
    Run.writeFile path code
    let status := if failed then "[bold red]Validation failed[/]" else "[bold green]Generated[/]"
    Run.print (.panel (status ++ ": wrote [cyan]" ++ path.text ++ "[/]"))
  | none => Run.write code
  if failed then throw (.exit 1)

def Command.run (env : Environment) : Command → Run Unit
  | .definitions extra => do Run.print (definitionTable (← registry env extra))
  | .new file => newProject file
  | .addNode file type x y fields extra => CommandLine.addNode env file type x y fields extra
  | .connect file source target extra => CommandLine.connect env file source target extra
  | .validate file extra => validateProject env file extra
  | .explain file extra => CommandLine.explain env file extra
  | .generate file out extra => generateSource env file out extra

/-! ## Whole lines -/

/-- The names of the log levels. -/
def logLevels : List String :=
  ["CRITICAL", "FATAL", "ERROR", "WARN", "WARNING", "INFO", "DEBUG", "NOTSET"]

/-- A log level is given as an option or by the settings, in any case. -/
def checkLevel (env : Environment) (given : Option String) : Run Unit := do
  let level ← match given with
    | none | some "" => do pure (← settings env).logLevel
    | some level => pure level
  if !logLevels.contains (level.map asciiUpperChar) then throw (.fault (.unknownLevel level))

/-- Runs a command line: options for all commands, the name of a command, and its words. -/
def runLine (env : Environment) (line : List String) : Run Unit := do
  let some words := readWords ["log-level"] false line | throw (.usage none)
  if words.help then return
  let name :: rest := words.arguments | throw (.usage none)
  let some name := CommandName.ofText? name | throw (.usage none)
  checkLevel env (words.value? "log-level")
  let some words := readWords name.options true rest | throw (.usage none)
  if words.help then return
  let some command := Command.ofWords? name words | throw (.usage none)
  command.run env

end NodeGraph.CommandLine
