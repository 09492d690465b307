import NodeGraph.Fault

/-!
# Files

The files that a program works on, as a value. A path is kept as the steps it consists of, so that
`a//b/./c` and `a/b/c` are one path. Following a path needs a directory at every step but the last.
-/

namespace NodeGraph

/-- A path: the slashes it starts with, and its steps. -/
structure Path where
  root : String
  steps : List String
  deriving DecidableEq, Inhabited

namespace Path

/-- One slash in front is a root, exactly two are another one, and more are one. -/
def rootOf : List Char → String
  | '/' :: '/' :: '/' :: _ => "/"
  | '/' :: '/' :: _ => "//"
  | '/' :: _ => "/"
  | _ => ""

/-- Empty steps and single dots are dropped. -/
def ofText (s : String) : Path :=
  let steps := (s.toList.splitOn '/').map String.ofList
  ⟨rootOf s.toList, steps.filter fun step => step ≠ "" ∧ step ≠ "."⟩

def text (p : Path) : String :=
  if p.root = "" ∧ p.steps = [] then "." else p.root ++ "/".intercalate p.steps

/-- The directory that a path lies in. -/
def parent (p : Path) : Path := { p with steps := p.steps.dropLast }

end Path

/-- What is at a place. -/
inductive Entry where
  | file (bytes : List UInt8)
  | directory
  deriving DecidableEq, Inhabited

/-- Files and directories by their places. A place is the list of steps that lead there from the
working directory, or from the root if the first one is a slash. The directories around the working
directory have no entries. -/
structure Files where
  entries : List (List String × Entry)
  deriving Inhabited

namespace Files

def empty : Files := ⟨[]⟩

/-- Where the steps of a path start. -/
def start (p : Path) : List String := if p.root = "" then [] else ["/"]

/-- Whether a place is the root, the working directory or one around it. -/
def isTop (place : List String) : Bool := place = ["/"] || place.all (· = "..")

/-- The place that is one step away; two dots lead back. -/
def next (place : List String) (step : String) : List String :=
  if step ≠ ".." then place ++ [step]
  else if place = ["/"] then place
  else if isTop place then place ++ [step]
  else place.dropLast

def get? (fs : Files) (place : List String) : Option Entry :=
  if isTop place then some .directory else fs.entries.lookup place

def put (fs : Files) (place : List String) (entry : Entry) : Files :=
  if (fs.entries.lookup place).isSome then
    ⟨fs.entries.map fun (k, e) => if k = place then (k, entry) else (k, e)⟩
  else ⟨fs.entries ++ [(place, entry)]⟩

/-- The place that steps lead to. All on the way have to be directories. -/
def follow (fs : Files) (place : List String) : List String → Except FileFault (List String)
  | [] => .ok place
  | step :: rest =>
    match fs.get? place with
    | some .directory => follow fs (next place step) rest
    | some (.file _) => .error .notDirectory
    | none => .error .notFound

/-- What is at a path. -/
def find (fs : Files) (p : Path) : Except FileFault Entry := do
  match fs.get? (← fs.follow (start p) p.steps) with
  | some entry => return entry
  | none => throw .notFound

def contains (fs : Files) (p : Path) : Bool := (fs.find p).isOk

def isDirectory (fs : Files) (p : Path) : Bool :=
  match fs.find p with
  | .ok .directory => true
  | _ => false

/-- The bytes of a file. -/
def read (fs : Files) (p : Path) : Except FileFault (List UInt8) := do
  match ← fs.find p with
  | .file bytes => return bytes
  | .directory => throw .isDirectory

/-- Line breaks of all kinds as one character. -/
def plainBreaks : List Char → List Char
  | [] => []
  | '\r' :: '\n' :: rest => '\n' :: plainBreaks rest
  | '\r' :: rest => '\n' :: plainBreaks rest
  | c :: rest => c :: plainBreaks rest

/-- The text of a file, its line breaks made plain. -/
def readText (fs : Files) (p : Path) : Except Fault String :=
  match fs.read p with
  | .error fault => .error (.file fault)
  | .ok bytes =>
    match Schema.utf8? bytes with
    | some s => .ok (String.ofList (plainBreaks s.toList))
    | none => .error (.file .notUtf8)

/-- Puts a file into a directory that is there. -/
def putFile (fs : Files) (p : Path) (bytes : List UInt8) : Except FileFault Files := do
  let place ← fs.follow (start p) p.steps
  if fs.get? place = some .directory then throw .isDirectory
  return fs.put place (.file bytes)

def writeText (fs : Files) (p : Path) (text : String) : Except Fault Files :=
  (fs.putFile p text.toUTF8.toList).mapError .file

/-- Makes the directories on the way from a place that is there. -/
def makeSteps (fs : Files) (place : List String) : List String → Except Fault Files
  | [] => .ok fs
  | step :: rest =>
    let there := next place step
    match fs.get? there with
    | some .directory => makeSteps fs there rest
    | some (.file _) => .error (.file (if rest.isEmpty then .alreadyExists else .notDirectory))
    | none => makeSteps (fs.put there .directory) there rest

/-- Makes a directory with all those it lies in; it may be there already. -/
def makeDirectory (fs : Files) (p : Path) : Except Fault Files := fs.makeSteps (start p) p.steps

/-- The name of an entry, if it lies in the directory at a place. -/
def nameIn? (place other : List String) : Option String :=
  match other.getLast? with
  | some name => if other.dropLast = place then some name else none
  | none => none

/-- The names in a directory in the order of their characters; none where there is no directory. -/
def names (fs : Files) (p : Path) : List String :=
  match fs.follow (start p) p.steps with
  | .ok place =>
    (fs.entries.filterMap fun (other, _) => nameIn? place other).mergeSort fun a b => a ≤ b
  | .error _ => []

/-- A tree of given files, with the directories they lie in. -/
def ofList (files : List (String × List UInt8)) : Files :=
  files.foldl (fun fs (name, bytes) =>
    let p := Path.ofText name
    match fs.makeDirectory p.parent with
    | .ok fs => fs.put (start p ++ p.steps) (.file bytes)
    | .error _ => fs) empty

/-- The files that have changed since `before`, by the text of their places. -/
def changes (before after : Files) : List (String × List UInt8) :=
  let changed := after.entries.filterMap fun (place, entry) =>
    match entry with
    | .file bytes =>
      if before.get? place = some entry then none else some (placeText place, bytes)
    | .directory => none
  changed.mergeSort fun a b => a.1 ≤ b.1
where
  placeText : List String → String
    | "/" :: steps => "/" ++ "/".intercalate steps
    | steps => "/".intercalate steps

end Files

end NodeGraph
