import NodeGraph.Proofs.Store.Saving

/-!
# Taking a graph out and in again

What a store answers about its graph depends on the graph alone, not on the tables that hold it. So
a graph may leave a store and enter another, or come from a file, and validation and generation find
there what they find on the plain lists. But the values are copied on the way, and a copy of a set
may list its members in another order, which is seen where the set is written.
-/

namespace NodeGraph

/-! ## What an edit comes to -/

namespace Edit

variable {α : Type} {e : Edit α} {w w' : Workspace} {a : α} {f : Fault} {x : Except Fault α}

/-- What an edit returns, apart from the workspace that it leaves. -/
def outcome (e : Edit α) (w : Workspace) : Except Fault α :=
  match e.run w with
  | .ok a _ => .ok a
  | .error f _ => .error f

theorem outcome_of_ok (h : e.run w = .ok a w') : e.outcome w = .ok a := by
  rw [outcome, h]

theorem outcome_of_error (h : e.run w = .error f w') : e.outcome w = .error f := by
  rw [outcome, h]

theorem outcome_orFail (x : Except Fault α) (w : Workspace) : (orFail x).outcome w = x := by
  cases x with
  | ok a => exact outcome_of_ok (run_orFail_eq_ok_iff.mpr ⟨rfl, rfl⟩)
  | error f => exact outcome_of_error (run_orFail_eq_error_iff.mpr ⟨rfl, rfl⟩)

end Edit

namespace Store

open Edit

variable {w w' : Workspace} {g : Graph} {files : Files} {file : Path} {p : Project}

/-! ## Answers about the graph -/

/-- The errors are kept in the store, and they are those of the plain graph. -/
theorem run_validate (r : Registry) (w : Workspace) :
    (validate r).run w =
      match NodeGraph.validate w.store.graph r with
      | .ok errors => .ok errors ⟨{ w.store with errors := errors }, w.ids⟩
      | .error f => .error f w := by
  rw [validate, run_store_bind]
  cases NodeGraph.validate w.store.graph r <;> rfl

theorem outcome_validate (r : Registry) (w : Workspace) :
    (validate r).outcome w = NodeGraph.validate w.store.graph r := by
  have hrun := run_validate r w
  cases hgraph : NodeGraph.validate w.store.graph r with
  | ok errors =>
      rw [hgraph] at hrun
      exact outcome_of_ok hrun
  | error f =>
      rw [hgraph] at hrun
      exact outcome_of_error hrun

theorem outcome_generate (r : Registry) (settings : Settings) (w : Workspace) :
    (generate r settings).outcome w = NodeGraph.generate w.store.graph r settings :=
  outcome_orFail (NodeGraph.generate w.store.graph r settings) w

/-- What a store answers is settled by the graph that it holds. -/
theorem outcomes_of_graph (h : w.store.graph = g) :
    (∀ r, (validate r).outcome w = NodeGraph.validate g r) ∧
      ∀ r settings, (generate r settings).outcome w = NodeGraph.generate g r settings := by
  constructor
  · intro r
    rw [outcome_validate, h]
  · intro r settings
    rw [outcome_generate, h]

/-! ## Stores that were just filled -/

/-- Nothing is selected or highlighted, and no errors are kept. -/
structure Unmarked (s : Store) : Prop where
  selected : s.selected = .null
  highlighted : s.highlighted = []
  errors : s.errors = []

theorem unmarked_of_openGraph {u : Unit} (h : (openGraph g).run w = .ok u w') :
    w'.store.Unmarked := by
  obtain ⟨_, rfl⟩ := openGraph_eq_ok_iff.mp h
  exact ⟨rfl, rfl, rfl⟩

/-- A sound graph enters any store, and what was there before is gone. -/
theorem exists_reopened (h : g.Sound) (w : Workspace) :
    ∃ w', (openGraph g).run w = .ok () w' ∧ w'.store.graph = g.taken ∧ w'.store.Unmarked := by
  obtain ⟨w', hopen⟩ := exists_openGraph h w
  obtain ⟨_, hgraph, _⟩ := openGraph_eq_ok hopen
  exact ⟨w', hopen, hgraph, unmarked_of_openGraph hopen⟩

/-- What is handed out is the graph that was taken over, but for orders of sets. -/
theorem reordered_exported {s : Store} (h : s.graph = g.taken) : g.Reordered s.exported := by
  rw [exported, h]
  exact g.reordered_taken.trans g.taken.reordered_copied

/-- A file that is opened can be loaded, and its graph is taken over. -/
theorem openFile_eq_ok (h : (openFile files file).run w = .ok p w') :
    Project.load files file = .ok p ∧ (openGraph p.graph).run w = .ok () w' := by
  obtain ⟨text, htext, hrun⟩ := run_orFail_bind_eq_ok_iff.mp h
  obtain ⟨hread, hopen⟩ := openProject_eq_ok hrun
  exact ⟨bind_eq_ok_iff.mpr ⟨text, htext, hread⟩, hopen⟩

theorem Consistent.sound_exported {s : Store} (h : s.Consistent) : s.exported.Sound :=
  s.graph.reordered_copied.sound_iff.mpr h.sound

/-- A graph that comes from a file has one order if no set in its fields has two members. -/
theorem hasOneOrder_of_load (h : Project.load files file = .ok p)
    (hfields : ∀ n ∈ p.graph.nodes, Value.EntriesHaveOneOrder n.fields) : p.graph.HasOneOrder where
  fields := hfields
  pins e he := Edge.HasTextPins.hasOneOrder ((Project.wellFormed_of_load h).pins e he)

end Store

namespace Workspace

open Edit Store

/-- The graph that a store hands out can be taken over by any store, which then hands out the same
graph in the same order, and has no marks. After a file was opened, the store hands out the graph of
the file, and validating and generating come to what they come to on that graph with its nodes
copied, faults included. All this is but for the order in which sets list their members; if no set
has two of them, the graphs are the very same, and so is what validating and generating come to. -/
theorem reopens_after (ids : Ids) (calls : List Call) :
    (∀ w, ∃ w', (openGraph ((start ids).after calls).store.exported).run w = .ok () w' ∧
      ((start ids).after calls).store.exported.Reordered w'.store.exported ∧
      (((start ids).after calls).store.exported.HasOneOrder →
        w'.store.exported = ((start ids).after calls).store.exported) ∧ w'.store.Unmarked) ∧
    ∀ files file w p w', (openFile files file).run w = .ok p w' →
      Project.load files file = .ok p ∧ p.graph.Reordered w'.store.exported ∧ w'.store.Unmarked ∧
        (∀ r, (Store.validate r).outcome w' = NodeGraph.validate p.graph.taken r) ∧
        (∀ r settings,
          (Store.generate r settings).outcome w' = NodeGraph.generate p.graph.taken r settings) ∧
        ((∀ n ∈ p.graph.nodes, Value.EntriesHaveOneOrder n.fields) →
          w'.store.exported = p.graph ∧
            (∀ r, (Store.validate r).outcome w' = NodeGraph.validate p.graph r) ∧
            ∀ r settings, (Store.generate r settings).outcome w' =
              NodeGraph.generate p.graph r settings) := by
  constructor
  · intro w
    have hconsistent : ((start ids).after calls).store.Consistent := consistent_after .empty calls
    obtain ⟨w', hopen, hgraph, hunmarked⟩ := exists_reopened hconsistent.sound_exported w
    have hreordered := reordered_exported hgraph
    exact ⟨w', hopen, hreordered, hreordered.eq_self, hunmarked⟩
  · intro files file w p w' h
    obtain ⟨hload, hopen⟩ := openFile_eq_ok h
    obtain ⟨_, hgraph, _⟩ := openGraph_eq_ok hopen
    have hreordered := reordered_exported hgraph
    obtain ⟨hvalidate, hgenerate⟩ := outcomes_of_graph hgraph
    refine ⟨hload, hreordered, unmarked_of_openGraph hopen, hvalidate, hgenerate, ?_⟩
    intro hfields
    have hone := hasOneOrder_of_load hload hfields
    have hsame : w'.store.graph = p.graph := by
      rw [hgraph, p.graph.reordered_taken.eq_self hone]
    exact ⟨hreordered.eq_self hone, outcomes_of_graph hsame⟩

/-- Marks that are written with their labels. -/
def writtenMarks : Registry :=
  Registry.empty.add { markType with template := "\x7b\x7blabel\x7d\x7d" }

/-- Whether generating from a graph gives a text. -/
def writes (text : String) (g : Graph) : Bool :=
  (NodeGraph.generate g writtenMarks .standard).toOption = some text

theorem generate_of_writes {text : String} {g : Graph} (h : writes text g = true) :
    NodeGraph.generate g writtenMarks .standard = .ok text := by
  have hsome := of_decide_eq_true h
  cases hgenerate : NodeGraph.generate g writtenMarks .standard with
  | ok s =>
      rw [hgenerate] at hsome
      exact congrArg Except.ok (Option.some.inj hsome)
  | error fault =>
      rw [hgenerate] at hsome
      cases hsome

/-- A file that can be read with a sound graph is opened from where it was written. -/
theorem exists_opened {text : String} {p : Project} (hread : Project.ofText text = .ok p)
    (hreturn : '\r' ∉ text.toList) (hsound : p.graph.Sound) (w : Workspace) :
    ∃ files w', (openFile files projectFile).run w = .ok p w' := by
  obtain ⟨files, hwrite⟩ : ∃ files, Files.empty.writeText projectFile text = .ok files := ⟨_, rfl⟩
  obtain ⟨w', hopen, _⟩ :=
    exists_openFile hsound (Files.readText_of_writeText hreturn hwrite) hread w
  exact ⟨files, w', hopen⟩

/-- A file with two marks that have labels, and an edge between them, is opened by a store that
holds two other nodes. -/
theorem markFile_reopens :
    ∃ files p w',
      (openFile files projectFile).run ((start ⟨[], 1⟩).after [takeOver plainGraph]) = .ok p w' ∧
      p.graph.ids = ["a", "b"] ∧
      p.graph.edges.map (fun e => (e.id, e.source, e.target)) = [("ab", "a", "b")] ∧
      p.graph.nodes.map (fun n => (n.field "label").display) = ["first", "second"] ∧
      (∀ n ∈ p.graph.nodes, Value.EntriesHaveOneOrder n.fields) ∧
      Project.load files projectFile = .ok p ∧ w'.store.exported = p.graph ∧ w'.store.Unmarked ∧
      (∀ r, (Store.validate r).outcome w' = NodeGraph.validate p.graph r) ∧
      ∀ r settings,
        (Store.generate r settings).outcome w' = NodeGraph.generate p.graph r settings := by
  have htest : reads markFile (fun g => hasShape ["a", "b"] [("ab", "a", "b")] g &&
      g.nodes.all (fun n => Value.entriesPlain n.fields) &&
      g.nodes.map (fun n => (n.field "label").display) = ["first", "second"]) = true := by
    decide +kernel
  obtain ⟨p, hread, htest⟩ := exists_of_reads htest
  simp only [Bool.and_eq_true, hasShape_iff, List.all_eq_true, decide_eq_true_iff] at htest
  obtain ⟨⟨⟨hids, hwires⟩, hplain⟩, hlabels⟩ := htest
  have hfields : ∀ n ∈ p.graph.nodes, Value.EntriesHaveOneOrder n.fields :=
    fun n hn => Value.entriesHaveOneOrder_of_entriesPlain n.fields (hplain n hn)
  have hsound : p.graph.Sound :=
    Graph.sound_of_shape (g := ⟨[⟨"a", "Mark", .origin, []⟩, ⟨"b", "Mark", .origin, []⟩],
      [⟨"ab", "a", .text "next", "b", .text "previous"⟩]⟩) hids hwires
      ⟨by decide, by decide, by decide⟩
  obtain ⟨files, w', hopen⟩ := exists_opened hread (by decide +kernel) hsound
    ((start ⟨[], 1⟩).after [takeOver plainGraph])
  obtain ⟨hload, _, hunmarked, _, _, hsame⟩ := (reopens_after ⟨[], 1⟩ []).2 _ _ _ _ _ hopen
  obtain ⟨hexported, hvalidate, hgenerate⟩ := hsame hfields
  exact ⟨files, p, w', hopen, hids, hwires, hlabels, hfields, hload, hexported, hunmarked,
    hvalidate, hgenerate⟩

/-- A file with one mark, the label of which is a set with two members. -/
def setFile : String :=
  "graph:\n  nodes:\n  - id: a\n    type: Mark\n    fields:\n      label: !!set\n" ++
    "        ? 3\n        ? 11\n"

/-- The store writes the members of the set in another order than the file. -/
theorem setFile_reordered :
    ∃ files p w', (openFile files projectFile).run (start ⟨[], 1⟩) = .ok p w' ∧
      NodeGraph.generate p.graph writtenMarks .standard =
        .ok "// Generated Rust Code\n\nlet a_next = \x7b11, 3\x7d;\n" ∧
      (Store.generate writtenMarks .standard).outcome w' =
        .ok "// Generated Rust Code\n\nlet a_next = \x7b3, 11\x7d;\n" := by
  have htest : reads setFile (fun g => hasShape ["a"] [] g &&
      writes "// Generated Rust Code\n\nlet a_next = \x7b11, 3\x7d;\n" g &&
      writes "// Generated Rust Code\n\nlet a_next = \x7b3, 11\x7d;\n" g.taken) = true := by
    decide +kernel
  obtain ⟨p, hread, htest⟩ := exists_of_reads htest
  simp only [Bool.and_eq_true, hasShape_iff] at htest
  obtain ⟨⟨⟨hids, hwires⟩, hdirect⟩, hcopied⟩ := htest
  have hsound : p.graph.Sound := ⟨by simp [hids], by simp [List.map_eq_nil_iff.mp hwires],
    by simp [List.map_eq_nil_iff.mp hwires]⟩
  obtain ⟨files, w', hopen⟩ := exists_opened hread (by decide +kernel) hsound (start ⟨[], 1⟩)
  obtain ⟨_, hrun⟩ := openFile_eq_ok hopen
  obtain ⟨_, hgraph, _⟩ := openGraph_eq_ok hrun
  refine ⟨files, p, w', hopen, generate_of_writes hdirect, ?_⟩
  rw [outcome_generate, hgraph]
  exact generate_of_writes hcopied

end Workspace

end NodeGraph
