import Mathlib.Data.Nat.Notation
import NodeGraph.CommandLine.Execution
import NodeGraph.Proofs.Steps

/-!
# Failing commands

The commands that edit a project read files at many places and write one at the end. So one that
fails, wherever it does, leaves all files as they were, and one that succeeds has written its
project and nothing else.
-/

namespace NodeGraph.CommandLine

open Steps

namespace Run

variable {α β : Type} {x : Run α} {k : α → Run β} {file : Path}

/-! ## Steps on a console -/

/-- The steps leave the files as they are if they fail. -/
abbrev AllOrNothing (x : Run α) : Prop := Steps.AllOrNothing Console.files x

/-- The steps leave the files as they are, whether they succeed or fail. -/
abbrev Reads (x : Run α) : Prop := Steps.Reads Console.files x

theorem reads_files : Reads files where
  ok h := by cases h; rfl
  error h := by cases h

theorem reads_orFail (r : Except Fault α) : Reads (orFail r) := by
  cases r with
  | ok a => exact reads_pure a
  | error f => exact reads_throw _

theorem reads_print (p : Printed) : Reads (print p) where
  ok h := by cases h; rfl
  error h := by cases h

theorem reads_refuse (code : ℕ) (text : String) : Reads (refuse code text : Run α) :=
  (reads_print _).bind fun _ => reads_throw _

/-- An edit of a store takes new ids from the console. -/
theorem run_edit (s : Store) (e : Edit α) (c : Console) :
    (edit s e).run c =
      match e.run ⟨s, c.ids⟩ with
      | .ok a w => .ok (.ok (a, w.store)) { c with ids := w.ids }
      | .error f w => .ok (.error f) { c with ids := w.ids } := by
  rw [edit, EStateM.run_bind, EStateM.run_get]
  dsimp only
  cases e.run ⟨s, c.ids⟩ <;> rfl

theorem reads_edit (s : Store) (e : Edit α) : Reads (edit s e) where
  ok h := by
    rw [run_edit] at h
    split at h <;> cases h <;> rfl
  error h := by
    rw [run_edit] at h
    split at h <;> cases h

theorem reads_tryEdit (s : Store) (e : Edit α) : Reads (tryEdit s e) := by
  refine (reads_edit s e).bind fun outcome => ?_
  cases outcome with
  | ok result => exact reads_pure result
  | error f =>
      dsimp only
      split
      · exact reads_refuse _ _
      · exact reads_throw _

/-- The steps write a text to a file at the end, or fail and leave all files as they are. -/
structure Saves (file : Path) (x : Run α) : Prop extends Steps.AllOrNothing Console.files x where
  ok : ∀ {c a c'}, x.run c = .ok a c' → ∃ text, c.files.writeText file text = .ok c'.files

theorem run_writeFile (file : Path) (text : String) (c : Console) :
    (writeFile file text).run c =
      match c.files.writeText file text with
      | .ok fs => .ok () { c with files := fs }
      | .error f => .error (.fault f) c := by
  have hread : (writeFile file text).run c =
      (orFail (c.files.writeText file text) >>= setFiles).run c := rfl
  rw [hread]
  cases c.files.writeText file text <;> rfl

theorem saves_writeFile (file : Path) (text : String) : Saves file (writeFile file text) where
  ok h := by
    rw [run_writeFile] at h
    split at h
    · rename_i fs hwrite
      cases h
      exact ⟨text, hwrite⟩
    · cases h
  error h := by
    rw [run_writeFile] at h
    split at h <;> cases h
    rfl

theorem Reads.bind_saves (hx : Reads x) (hk : ∀ a, Saves file (k a)) :
    Saves file (x >>= k) where
  ok h := by
    obtain ⟨a, c₁, hfirst, hrest⟩ := run_bind_eq_ok_iff.mp h
    obtain ⟨text, hwrite⟩ := (hk a).ok hrest
    exact ⟨text, by rwa [hx.ok hfirst] at hwrite⟩
  error := (hx.bind_allOrNothing fun a => (hk a).toAllOrNothing).error

/-- After the file is written, something may still be printed. -/
theorem Saves.bind_print (hx : Saves file x) (p : α → Printed) :
    Saves file (x >>= fun a => print (p a)) where
  ok h := by
    obtain ⟨a, c₁, hfirst, hrest⟩ := run_bind_eq_ok_iff.mp h
    obtain ⟨text, hwrite⟩ := hx.ok hfirst
    exact ⟨text, by rwa [← (reads_print _).ok hrest] at hwrite⟩
  error h := by
    rcases run_bind_eq_error_iff.mp h with hfirst | ⟨a, c₁, _, hrest⟩
    · exact hx.error hfirst
    · cases hrest

end Run

open Run

variable {env : Environment} {line : List String}

/-! ## What commands start from -/

theorem reads_settings (env : Environment) : Reads (settings env) := by
  refine reads_files.bind fun fs => ?_
  dsimp only
  split
  · exact (reads_orFail _).bind fun text => reads_orFail _
  · exact reads_orFail _

theorem reads_loaded (outcome : Registry × Except Fault (List String)) :
    Reads (loaded outcome) := by
  unfold loaded
  split
  · exact reads_pure _
  · exact reads_refuse _ _
  · exact reads_throw _

theorem reads_loadPath (r : Registry) (p : Path) : Reads (loadPath r p) :=
  reads_files.bind fun _ => reads_loaded _

theorem reads_registry (env : Environment) (extra : Option Path) : Reads (registry env extra) := by
  refine (reads_settings env).bind fun s => ?_
  refine (reads_loaded _).bind fun r => ?_
  exact Reads.foldlM reads_loadPath _ r

theorem reads_openStore (env : Environment) (file : Path) (extra : Option Path) :
    Reads (openStore env file extra) := by
  refine (reads_registry env extra).bind fun r => ?_
  refine reads_files.bind fun fs => ?_
  refine (reads_orFail _).bind fun text => ?_
  refine (reads_edit _ _).bind fun outcome => ?_
  exact (reads_orFail _).bind fun result => reads_pure _

theorem saves_saveStore (s : Store) (file : Path) (project : Project) :
    Saves file (saveStore s file project) :=
  (reads_orFail _).bind_saves fun text => saves_writeFile file text

/-! ## Words with a meaning -/

theorem reads_assignment (word : String) : Reads (assignment word) := by
  unfold assignment
  split
  · exact reads_throw _
  · dsimp only
    split
    · exact reads_pure _
    · exact (reads_orFail _).bind fun v => reads_pure _

theorem reads_endpoint (word : String) : Reads (endpoint word) := by
  unfold endpoint
  split
  · exact reads_pure _
  · exact reads_throw _

/-! ## The commands -/

theorem saves_addNode (env : Environment) (file : Path) (type : String) (x y : Double)
    (fields : List String) (extra : Option Path) :
    Saves file (addNode env file type x y fields extra) := by
  refine (reads_openStore env file extra).bind_saves fun opened => ?_
  refine (reads_tryEdit _ _).bind_saves fun added => ?_
  dsimp only
  split
  · exact (saves_saveStore _ file _).bind_print _
  · refine Reads.bind_saves (Reads.mapM reads_assignment fields) fun given => ?_
    refine (reads_tryEdit _ _).bind_saves fun updated => ?_
    exact (saves_saveStore _ file _).bind_print _

theorem saves_connect (env : Environment) (file : Path) (source target : String)
    (extra : Option Path) : Saves file (connect env file source target extra) := by
  refine (reads_openStore env file extra).bind_saves fun opened => ?_
  refine (reads_endpoint source).bind_saves fun sourceEnd => ?_
  refine (reads_endpoint target).bind_saves fun targetEnd => ?_
  refine (reads_tryEdit _ _).bind_saves fun added => ?_
  exact (saves_saveStore _ file _).bind_print _

/-- The project that a command edits. -/
def Command.edited? : Command → Option Path
  | .addNode file _ _ _ _ _ | .connect file _ _ _ => some file
  | _ => none

theorem Command.saves (env : Environment) {command : Command} {file : Path}
    (h : command.edited? = some file) : Saves file (command.run env) := by
  cases command with
  | addNode file' type x y fields extra =>
      obtain rfl := Option.some.inj h
      exact saves_addNode env file' type x y fields extra
  | connect file' source target extra =>
      obtain rfl := Option.some.inj h
      exact saves_connect env file' source target extra
  | _ => cases h

/-! ## Whole lines -/

theorem reads_checkLevel (env : Environment) (given : Option String) :
    Reads (checkLevel env given) := by
  have hcheck : ∀ level : String, Reads (if !logLevels.contains (level.map asciiUpperChar) then
      throw (.fault (.unknownLevel level)) else pure () : Run Unit) := by
    intro level
    split
    · exact reads_throw _
    · exact reads_pure _
  unfold checkLevel
  split
  · exact (reads_settings env).bind fun s => hcheck _
  · exact (reads_settings env).bind fun s => hcheck _
  · exact hcheck _

/-- The command that a line names, and the words behind its name. -/
def named? (line : List String) : Option (CommandName × List String) := do
  let words ← readWords ["log-level"] false line
  match words.arguments with
  | [] => none
  | first :: rest => return (← CommandName.ofText? first, rest)

/-- The command that the words behind its name ask for. -/
def CommandName.command? (name : CommandName) (rest : List String) : Option Command :=
  (readWords name.options true rest).bind (Command.ofWords? name)

/-- Whether a command of this name edits a project. -/
def CommandName.edits : CommandName → Bool
  | .addNode | .connect => true
  | _ => false

/-- A line runs the command that it asks for, or does nothing. -/
theorem reads_or_runs (env : Environment) (line : List String) :
    Reads (runLine env line) ∨ ∃ level name rest command, named? line = some (name, rest) ∧
      name.command? rest = some command ∧
      runLine env line = checkLevel env level >>= fun _ => command.run env := by
  unfold runLine
  rcases htop : readWords ["log-level"] false line with _ | ⟨options, arguments, help⟩
  · exact .inl (reads_throw _)
  obtain rfl | rfl := Bool.eq_false_or_eq_true help
  · exact .inl (reads_pure ())
  rcases arguments with _ | ⟨first, rest⟩
  · exact .inl (reads_throw _)
  simp only [Bool.false_eq_true, if_false]
  rcases hname : CommandName.ofText? first with _ | name
  · exact .inl (reads_throw _)
  dsimp only
  rcases hwords : readWords name.options true rest with _ | words
  · exact .inl ((reads_checkLevel env _).bind fun _ => reads_throw _)
  dsimp only
  obtain hhelp | hhelp := Bool.eq_false_or_eq_true words.help
  · rw [hhelp]
    exact .inl ((reads_checkLevel env _).bind fun _ => reads_pure ())
  simp only [hhelp, Bool.false_eq_true, if_false]
  rcases hcommand : Command.ofWords? name words with _ | command
  · exact .inl ((reads_checkLevel env _).bind fun _ => reads_throw _)
  have hnamed : named? line = some (name, rest) := by
    simp only [named?, htop, hname, Option.bind_eq_bind, Option.bind_some, Option.pure_def]
  have hasked : name.command? rest = some command := by
    rw [CommandName.command?, hwords, Option.bind_some, hcommand]
  exact .inr ⟨_, name, rest, command, hnamed, hasked, rfl⟩

theorem edited?_of_command? {name : CommandName} {rest : List String} {command : Command}
    (hedits : name.edits = true) (h : name.command? rest = some command) :
    ∃ file, command.edited? = some file := by
  obtain ⟨words, _, h⟩ := Option.bind_eq_some_iff.mp h
  unfold Command.ofWords? at h
  dsimp only at h
  split at h
  case h_3 =>
    obtain ⟨x, _, h⟩ := Option.bind_eq_some_iff.mp h
    obtain ⟨y, _, h⟩ := Option.bind_eq_some_iff.mp h
    obtain rfl := Option.some.inj h
    exact ⟨_, rfl⟩
  case h_4 =>
    obtain rfl := Option.some.inj h
    exact ⟨_, rfl⟩
  all_goals cases h
  all_goals cases hedits

/-- A line that names a command which edits a project leaves all files as they were if it fails,
whether by an exit code, by wrong words or by a fault. If it does not fail, it has written one text
to the project, unless it asked for help. -/
theorem runLine_writes_last (env : Environment) {line rest : List String} {name : CommandName}
    (hnamed : named? line = some (name, rest)) (hedits : name.edits = true) (c : Console) :
    (∀ stop c', (runLine env line).run c = .error stop c' → c'.files = c.files) ∧
      ∀ c', (runLine env line).run c = .ok () c' →
        c'.files = c.files ∨ ∃ command file text, name.command? rest = some command ∧
          command.edited? = some file ∧ c.files.writeText file text = .ok c'.files := by
  rcases reads_or_runs env line with hreads | ⟨level, _, _, command, hnamed', hasked, hruns⟩
  · exact ⟨fun _ _ h => hreads.error h, fun _ h => .inl (hreads.ok h)⟩
  · cases hnamed.symm.trans hnamed'
    obtain ⟨file, hfile⟩ := edited?_of_command? hedits hasked
    have hsaves : Saves file (runLine env line) := by
      rw [hruns]
      exact (reads_checkLevel env level).bind_saves fun _ => Command.saves env hfile
    refine ⟨fun _ _ h => hsaves.error h, fun _ h => ?_⟩
    obtain ⟨text, hwrite⟩ := hsaves.ok h
    exact .inr ⟨command, file, text, hasked, hfile, hwrite⟩

/-- The bytes of a text in a file. -/
def textBytes (s : String) : List UInt8 := s.toUTF8.data.toList

/-- An empty project, and a definition of a kind of node without fields. -/
def noteFiles : Files :=
  ⟨[(["p.yaml"], .file []),
    (["d.yaml"], .file (textBytes ("name: Note\ncategory: Notes\ndescription: A note\n" ++
      "fields: \x7b\x7d\npins: \x7b\x7d\ntemplate: note\n")))]⟩

/-- The definitions that come with the program are switched off. -/
def noPacks : Environment := [("PULSARGRAPH_LOAD_BUILTIN_DEFINITIONS", "false")]

/-- A node is added, and only then is its field found to be unknown. -/
def undeclaredField : List String :=
  ["add-node", "p.yaml", "Note", "--set", "text=hello", "--defs", "d.yaml"]

theorem undeclaredField_keeps_files :
    named? undeclaredField = some (.addNode, undeclaredField.tail) ∧
      CommandName.edits .addNode = true ∧
      ∃ c', (runLine noPacks undeclaredField).run (.start noteFiles ⟨[], 1⟩) =
          .error (.exit 1) c' ∧
        c'.ids.next = 2 ∧ c'.files = noteFiles := by
  have hnamed : named? undeclaredField = some (.addNode, undeclaredField.tail) := by
    decide +kernel
  refine ⟨hnamed, rfl, ?_⟩
  have hfails : (match (runLine noPacks undeclaredField).run (.start noteFiles ⟨[], 1⟩) with
      | .error (.exit 1) c' => c'.ids.next == 2
      | _ => false) = true := by decide +kernel
  split at hfails
  · rename_i c' hrun
    exact ⟨c', hrun, eq_of_beq hfails, (runLine_writes_last noPacks hnamed rfl _).1 _ c' hrun⟩
  · cases hfails

end NodeGraph.CommandLine
