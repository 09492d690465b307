import NodeGraph.Files
import NodeGraph.Registry

/-!
# Definitions in files

A registry is filled from a file or from a folder. In a folder the definition files are those whose
names end in `.yaml` or `.yml`; they are loaded in the order of their names, up to the first faulty
one.
-/

namespace NodeGraph.Registry

def loadFile (hooks : HookTable) (fs : Files) (r : Registry) (p : Path) :
    Registry × Except Fault (List String) :=
  match fs.readText p with
  | .ok text => r.load hooks text
  | .error fault => (r, .error fault)

def isDefinitionFile (name : String) : Bool := name.endsWith ".yaml" || name.endsWith ".yml"

/-- Loads files one after the other, up to the first faulty one. -/
def loadFiles (hooks : HookTable) (fs : Files) (r : Registry) :
    List Path → Registry × Except Fault (List String)
  | [] => (r, .ok [])
  | p :: rest =>
    match r.loadFile hooks fs p with
    | (r, .error fault) => (r, .error fault)
    | (r, .ok names) =>
      let (r, more) := loadFiles hooks fs r rest
      (r, more.map (names ++ ·))

def loadDirectory (hooks : HookTable) (fs : Files) (r : Registry) (p : Path) :
    Registry × Except Fault (List String) :=
  let names := (fs.names p).filter isDefinitionFile
  r.loadFiles hooks fs (names.map fun name => { p with steps := p.steps ++ [name] })

end NodeGraph.Registry
