import NodeGraph.Store

/-!
# The console

What a command works on and what it leaves: the files, the source of new ids, and what was printed.
A command ends early with an exit code, because it is not used as it should be, or by a fault.
-/

namespace NodeGraph.CommandLine

/-- Something printed with markup. -/
inductive Printed where
  | line (text : String)
  | panel (text : String)
  | table (title : String) (columns : List String) (rows : List (List String))
  deriving DecidableEq, Inhabited

structure Console where
  files : Files
  ids : Ids
  printed : List Printed
  /-- The plain text that was printed. -/
  output : String
  deriving Inhabited

/-- A console on which nothing was printed yet. -/
def Console.start (files : Files) (ids : Ids) : Console := ⟨files, ids, [], ""⟩

/-- Why a command ends before its end. -/
inductive Stop where
  | exit (code : Nat)
  /-- The words make no sense, for a reason that may be worded. -/
  | usage (message : Option String)
  | fault (fault : Fault)
  deriving Inhabited

abbrev Run (α : Type) := EStateM Stop Console α

namespace Run

def orFail {α : Type} : Except Fault α → Run α
  | .ok a => pure a
  | .error f => throw (.fault f)

def print (p : Printed) : Run Unit := modify fun c => { c with printed := c.printed ++ [p] }

/-- Prints a plain text and a line break. -/
def write (text : String) : Run Unit :=
  modify fun c => { c with output := c.output ++ text ++ "\n" }

def files : Run Files := do return (← get).files

def setFiles (fs : Files) : Run Unit := modify fun c => { c with files := fs }

def writeFile (p : Path) (text : String) : Run Unit := do
  setFiles (← orFail ((← files).writeText p text))

/-- Makes the directories that a file is going to lie in. -/
def makeRoom (p : Path) : Run Unit := do
  setFiles (← orFail ((← files).makeDirectory p.parent))

/-- Ends with a panel. -/
def refuse {α : Type} (code : Nat) (text : String) : Run α := do
  print (.panel text)
  throw (.exit code)

/-- Edits a store. Ids that were drawn stay drawn when the edit fails. -/
def edit {α : Type} (s : Store) (e : Edit α) : Run (Except Fault (α × Store)) := do
  let c ← get
  match e.run ⟨s, c.ids⟩ with
  | .ok a w =>
    set { c with ids := w.ids }
    return .ok (a, w.store)
  | .error f w =>
    set { c with ids := w.ids }
    return .error f

/-- Edits a store, where a fault that has a wording is shown. -/
def tryEdit {α : Type} (s : Store) (e : Edit α) : Run (α × Store) := do
  match ← edit s e with
  | .ok result => return result
  | .error f =>
    match f.message? with
    | some text => refuse 1 ("[bold red]" ++ text ++ "[/]")
    | none => throw (.fault f)

end Run

end NodeGraph.CommandLine
