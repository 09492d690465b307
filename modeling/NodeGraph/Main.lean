import NodeGraph.CommandLine.Execution

/-!
# The program

Runs a command line on the files that its words name, prints what the command prints, and writes the
files that it changed.
-/

namespace NodeGraph.Program

open CommandLine

/-- The variables of the process: entries with an equals sign, each ended by a zero. -/
def environment : IO Environment := do
  let text ← try IO.FS.readFile "/proc/self/environ" catch _ => pure ""
  return (text.splitOn "\x00").filterMap fun entry =>
    match cutAt '=' entry.toList with
    | (name, some value) => some (String.ofList name, String.ofList value)
    | _ => none

def readBytes? (name : String) : IO (Option (List UInt8)) := do
  try return some (← IO.FS.readBinFile name).toList catch _ => return none

/-- The names in a directory; nothing where there is none. -/
def namesIn? (name : String) : IO (Option (List String)) := do
  try
    let entries ← (← IO.FS.realPath name).readDir
    return some (entries.toList.map (·.fileName))
  catch _ => return none

/-- Takes over what is at a path, and what it leads through. -/
def take (fs : Files) (p : Path) : IO Files := do
  let room := (fs.makeDirectory p.parent).toOption.getD fs
  match ← namesIn? p.text with
  | some names =>
    let mut fs := (fs.makeDirectory p).toOption.getD fs
    for name in names.filter Registry.isDefinitionFile do
      let inner : Path := { p with steps := p.steps ++ [name] }
      if let some bytes ← readBytes? inner.text then
        fs := (fs.putFile inner bytes).toOption.getD fs
    return fs
  | none =>
    match ← readBytes? p.text with
    | some bytes => return (room.putFile p bytes).toOption.getD fs
    | none => return if (← namesIn? p.parent.text).isSome then room else fs

/-- The paths that words can name: words, and what stands behind an equals sign. -/
def pathsIn (words : List String) : List Path :=
  words.flatMap fun word =>
    match cutAt '=' word.toList with
    | (_, some value) => [.ofText word, .ofText (String.ofList value)]
    | (_, none) => [.ofText word]

/-- The files that a command line can read. -/
def filesFor (env : Environment) (words : List String) : IO Files := do
  let fs ← (environmentFile :: pathsIn words).foldlM take .empty
  match (settings env).run (.start fs ⟨[], 1⟩) with
  | .ok s _ => s.definitionsPath.toList.foldlM take fs
  | .error _ _ => return fs

/-- Texts for new ids. -/
def freshIds : IO Ids := do
  let texts ← (List.range 64).mapM fun _ => do
    let n ← IO.rand 0 (Nat.pow 16 Ids.size - 1)
    let digits := Nat.toDigits 16 n
    return String.ofList (List.replicate (Ids.size - digits.length) '0' ++ digits)
  return ⟨texts, 1⟩

def plain : Printed → String
  | .line text => text
  | .panel text => text
  | .table title columns rows =>
    "\n".intercalate (title :: (columns :: rows).map (" | ".intercalate ·))

def writeChanges (before after : Files) : IO Unit := do
  for (name, bytes) in Files.changes before after do
    IO.FS.createDirAll (Path.ofText name).parent.text
    IO.FS.writeBinFile name (ByteArray.mk bytes.toArray)

def run (words : List String) : IO UInt32 := do
  let env ← environment
  let before ← filesFor env words
  let (stop, c) := match (runLine env words).run (.start before (← freshIds)) with
    | .ok _ c => (none, c)
    | .error stop c => (some stop, c)
  writeChanges before c.files
  for p in c.printed do
    IO.println (plain p)
  IO.print c.output
  match stop with
  | none => return 0
  | some (.exit code) => return code.toUInt32
  | some (.usage message) =>
    IO.eprintln (message.getD "usage: COMMAND WORDS")
    return 2
  | some (.fault f) =>
    IO.eprintln (faultText f)
    return 1

end NodeGraph.Program

def main (words : List String) : IO UInt32 := NodeGraph.Program.run words
