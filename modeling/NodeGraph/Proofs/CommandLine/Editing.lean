import NodeGraph.Proofs.CommandLine.Failure
import NodeGraph.Proofs.Project.Extension
import NodeGraph.Proofs.Store.Saving

/-!
# Editing a project

A command that edits a project reads it, takes its graph over into a store, puts one node or one
edge in, and saves the store to the file it came from. If the project is plain, the file then holds
the same project with one node or one edge more; only the version is always the one that is written.
-/

namespace NodeGraph

/-! ## Stores -/

namespace Store

variable {s : Store} {n n' : Node} {e : Edge}

theorem graph_putNode (h : n.id ∉ s.nodes.keys) : (s.putNode n).graph = s.graph.extend [n] [] := by
  simp [graph, putNode, Graph.extend, Table.values, Table.entries_insert_of_notMem h]

theorem graph_putEdge (h : e.id ∉ s.edges.keys) : (s.putEdge e).graph = s.graph.extend [] [e] := by
  simp [graph, putEdge, Graph.extend, Table.values, Table.entries_insert_of_notMem h]

/-- A node that is put again takes the place of the one before. -/
theorem putNode_putNode (h : n'.id = n.id) : (s.putNode n).putNode n' = s.putNode n' := by
  simp only [putNode, h, Table.insert_insert]

/-- An update of the node that was put last only changes that node. -/
theorem updateNode_putNode_eq_ok {r : Registry} {fields : Fields} {ids : Ids} {w : Workspace}
    {result : Option Node}
    (h : (updateNode r (.text n.id) fields).run ⟨s.putNode n, ids⟩ = .ok result w) :
    ∃ n', n'.id = n.id ∧ w.store = s.putNode n' := by
  rcases updateNode_eq_ok h with ⟨_, _, rfl⟩ | ⟨key, found, hkey, hget, _, _, rfl⟩
  · exact ⟨n, rfl, rfl⟩
  · obtain rfl := Value.text.inj hkey
    have hsame : found = n := by
      rw [putNode, Table.get?_insert, if_pos rfl] at hget
      exact (Option.some.inj hget).symm
    subst hsame
    exact ⟨updated found fields, rfl, putNode_putNode rfl⟩

end Store

namespace CommandLine

namespace Run

variable {α : Type} {c c' : Console} {a : α}

theorem run_throw {stop : Stop} : (throw stop : Run α).run c = .error stop c := rfl

theorem run_orFail_eq_ok_iff {x : Except Fault α} :
    (orFail x).run c = .ok a c' ↔ x = .ok a ∧ c = c' := by
  cases x with
  | ok b => simp [orFail]
  | error f => simp [orFail, run_throw]

/-- Steps that succeed when they are run. -/
theorem exists_run_eq_ok {x : Run Unit}
    (h : (match x.run c with | .ok _ _ => true | .error _ _ => false) = true) :
    ∃ c', x.run c = .ok () c' := by
  split at h
  · rename_i c' hrun
    exact ⟨c', hrun⟩
  · cases h

theorem run_files_bind {k : Files → Run α} : (files >>= k).run c = (k c.files).run c := rfl

theorem run_edit_eq_ok {s : Store} {e : Edit α} {outcome : Except Fault (α × Store)}
    {result : α × Store} (h : (edit s e).run c = .ok outcome c') (hok : outcome = .ok result) :
    ∃ w, e.run ⟨s, c.ids⟩ = .ok result.1 w ∧ result.2 = w.store ∧ c'.files = c.files := by
  subst hok
  rw [run_edit] at h
  split at h
  · rename_i b w hrun
    cases h
    exact ⟨w, hrun, rfl, rfl⟩
  · cases h

theorem run_tryEdit_eq_ok {s : Store} {e : Edit α} {result : α × Store}
    (h : (tryEdit s e).run c = .ok result c') :
    ∃ w, e.run ⟨s, c.ids⟩ = .ok result.1 w ∧ result.2 = w.store ∧ c'.files = c.files := by
  obtain ⟨outcome, c₁, hedit, h⟩ := run_bind_eq_ok_iff.mp h
  cases outcome with
  | ok b =>
      obtain ⟨rfl, rfl⟩ := run_pure_eq_ok_iff.mp h
      exact run_edit_eq_ok hedit rfl
  | error f =>
      dsimp only at h
      split at h <;> cases h

end Run

open Run

variable {env : Environment} {c c' : Console} {file : Path} {extra : Option Path}

/-! ## Opening -/

/-- A file with definitions is loaded into a registry. -/
theorem run_loadPath {r r' : Registry} {text : String} {names : List String}
    (hbreaks : '\r' ∉ text.toList) (hread : c.files.read file = .ok (textBytes text))
    (hload : r.load Hook.builtin text = (r', .ok names)) : (loadPath r file).run c = .ok r' c := by
  rw [loadPath, run_files_bind, Files.isDirectory_of_read hread, if_neg Bool.false_ne_true,
    Registry.loadFile, Files.readText_of_read hbreaks hread]
  dsimp only
  rw [hload]
  rfl

/-- If the packs are switched off and there is no file with settings, the registry is filled from the
file that the command names. -/
theorem run_registry {s : Settings} (hfile : c.files.contains environmentFile = false)
    (hsettings : Settings.ofSources [] env (EnvironmentFile.read env "") = .good s)
    (hpacks : s.loadBuiltinDefinitions = false) (hpath : s.definitionsPath = none) :
    (registry env (some file)).run c = (loadPath .empty file).run c := by
  have hrun : (settings env).run c = .ok s c := by
    rw [settings, run_files_bind, hfile]
    exact run_orFail_eq_ok_iff.mpr ⟨congrArg Checked.orFault hsettings, rfl⟩
  rw [registry, run_bind_of_ok hrun, hpacks, hpath]
  exact congrArg (EStateM.run · c) (bind_pure (loadPath .empty file))

/-- A project that is read is opened if its graph is sound. -/
theorem openStore_of_load {r : Registry} {p : Project} (hsound : p.graph.Sound)
    (hregistry : (registry env extra).run c = .ok r c')
    (hload : Project.load c.files file = .ok p) :
    (openStore env file extra).run c =
      .ok (r, p, Store.ofGraph p.graph.taken (Graph.sound_taken_iff.mpr hsound)) c' := by
  obtain ⟨text, hread, htext⟩ := bind_eq_ok_iff.mp hload
  rw [← (reads_registry env extra).ok hregistry] at hread
  have hrun : (orFail (c'.files.readText file)).run c' = .ok text c' :=
    run_orFail_eq_ok_iff.mpr ⟨hread, rfl⟩
  have hopen : (Store.openProject text).run ⟨.empty, c'.ids⟩ =
      .ok p ⟨Store.ofGraph p.graph.taken (Graph.sound_taken_iff.mpr hsound), c'.ids⟩ :=
    (Store.openProject_eq_ok_iff htext).mpr (Store.openGraph_eq_ok_iff.mpr ⟨hsound, rfl⟩)
  have hedit : (edit .empty (Store.openProject text)).run c' =
      .ok (.ok (p, Store.ofGraph p.graph.taken (Graph.sound_taken_iff.mpr hsound))) c' := by
    rw [run_edit, hopen]
  rw [openStore, run_bind_of_ok hregistry, run_files_bind, run_bind_of_ok hrun,
    run_bind_of_ok hedit]
  rfl

/-- The store that is opened has taken over the graph of the project. -/
theorem openStore_eq_ok {r : Registry} {p : Project} {s : Store}
    (h : (openStore env file extra).run c = .ok (r, p, s) c') :
    Project.load c.files file = .ok p ∧ s.Consistent ∧ s.graph = p.graph.taken ∧
      c'.files = c.files := by
  obtain ⟨r', c₁, hregistry, h⟩ := run_bind_eq_ok_iff.mp h
  have hregistryFiles := (reads_registry env extra).ok hregistry
  rw [run_files_bind] at h
  obtain ⟨text, c₂, htext, h⟩ := run_bind_eq_ok_iff.mp h
  obtain ⟨hread, rfl⟩ := run_orFail_eq_ok_iff.mp htext
  obtain ⟨outcome, c₃, hedit, h⟩ := run_bind_eq_ok_iff.mp h
  obtain ⟨result, c₄, houtcome, h⟩ := run_bind_eq_ok_iff.mp h
  obtain ⟨hok, rfl⟩ := run_orFail_eq_ok_iff.mp houtcome
  obtain ⟨hresult, rfl⟩ := run_pure_eq_ok_iff.mp h
  cases hresult
  obtain ⟨w, hopen, hstore, hfiles⟩ := run_edit_eq_ok hedit hok
  obtain ⟨hproject, hopen⟩ := Store.openProject_eq_ok hopen
  obtain ⟨_, hgraph, _⟩ := Store.openGraph_eq_ok hopen
  rw [hregistryFiles] at hread hfiles
  refine ⟨?_, ?_, ?_, hfiles⟩
  · rw [Project.load, hread]
    exact hproject
  · rw [hstore]
    exact Store.consistent_of_importGraph hopen
  · rw [hstore]
    exact hgraph

/-! ## The edits -/

/-- What is printed behind the saving does not matter to the files. -/
theorem saveStore_print_eq_ok {s : Store} {p : Project} {printed : Printed} {u : Unit}
    (h : (saveStore s file p >>= fun _ => print printed).run c = .ok u c') :
    s.saveFile c.files file (.map p.metadata) = .ok c'.files := by
  obtain ⟨u', c₁, h, hprint⟩ := run_bind_eq_ok_iff.mp h
  rw [(reads_print printed).ok hprint]
  obtain ⟨text, c₂, htext, h⟩ := run_bind_eq_ok_iff.mp h
  obtain ⟨hsave, rfl⟩ := run_orFail_eq_ok_iff.mp htext
  rw [run_writeFile] at h
  split at h
  · rename_i fs hwrite
    cases h
    rw [Store.saveFile, hsave]
    exact hwrite
  · cases h

/-- The graph with one node more is saved to the file. -/
theorem addNode_eq_ok {type : String} {x y : Double} {fields : List String} {u : Unit}
    (h : (addNode env file type x y fields extra).run c = .ok u c') :
    ∃ (p : Project) (s : Store) (n : Node), Project.load c.files file = .ok p ∧
      n.id ∉ p.graph.ids ∧ s.graph = p.graph.taken.extend [n] [] ∧
      s.saveFile c.files file (.map p.metadata) = .ok c'.files := by
  obtain ⟨⟨r, p, s⟩, c₁, hopen, h⟩ := run_bind_eq_ok_iff.mp h
  obtain ⟨hload, hconsistent, hgraph, hopenFiles⟩ := openStore_eq_ok hopen
  obtain ⟨⟨_, s₁⟩, c₂, hadd, h⟩ := run_bind_eq_ok_iff.mp h
  obtain ⟨w, hrun, hstore, haddFiles⟩ := run_tryEdit_eq_ok hadd
  dsimp only at hrun hstore
  obtain ⟨_, d, position, _, _, _, rfl, hw⟩ := Store.addNode_eq_ok hrun
  set n := Store.created d (Workspace.fresh ⟨s, c₁.ids⟩ "node").1 position
  have hnew : n.id ∉ s.nodes.keys := Workspace.fresh_notMem_nodes ⟨s, c₁.ids⟩ "node"
  obtain rfl : s₁ = s.putNode n := by rw [hstore, hw]
  -- the node that is saved stands under the new id, whatever its fields are now
  obtain ⟨n', c₃, hid, hfiles, h⟩ : ∃ n' c₃, n'.id = n.id ∧ c₃.files = c.files ∧
      (saveStore (s.putNode n') file p >>= fun _ => print (.line n.id)).run c₃ = .ok u c' := by
    dsimp only at h
    split at h
    · rw [pure_bind] at h
      exact ⟨n, c₂, rfl, haddFiles.trans hopenFiles, h⟩
    · obtain ⟨given, c₃, hgiven, h⟩ := run_bind_eq_ok_iff.mp h
      obtain ⟨⟨result, s₂⟩, c₄, hupdate, h⟩ := run_bind_eq_ok_iff.mp h
      rw [pure_bind] at h
      obtain ⟨w₂, hrun₂, hstore₂, hupdateFiles⟩ := run_tryEdit_eq_ok hupdate
      obtain ⟨n', hid, hw₂⟩ := Store.updateNode_putNode_eq_ok hrun₂
      dsimp only at hstore₂ h
      rw [hstore₂, hw₂] at h
      have hgivenFiles := (Steps.Reads.mapM reads_assignment fields).ok hgiven
      exact ⟨n', c₄, hid, by rw [hupdateFiles, hgivenFiles, haddFiles, hopenFiles], h⟩
  have hsaved := saveStore_print_eq_ok h
  rw [hfiles] at hsaved
  rw [← hid] at hnew
  refine ⟨p, _, n', hload, ?_, ?_, hsaved⟩
  · rwa [← Graph.ids_taken, ← hgraph, hconsistent.ids_eq]
  · rw [Store.graph_putNode hnew, hgraph]

/-- The graph with one edge more is saved to the file. -/
theorem connect_eq_ok {source target : String} {u : Unit}
    (h : (connect env file source target extra).run c = .ok u c') :
    ∃ (p : Project) (s : Store) (e : Edge), Project.load c.files file = .ok p ∧
      e.id ∉ p.graph.edges.map (·.id) ∧ e.HasTextPins ∧ s.graph = p.graph.taken.extend [] [e] ∧
      s.saveFile c.files file (.map p.metadata) = .ok c'.files := by
  obtain ⟨⟨r, p, s⟩, c₁, hopen, h⟩ := run_bind_eq_ok_iff.mp h
  obtain ⟨hload, hconsistent, hgraph, hopenFiles⟩ := openStore_eq_ok hopen
  obtain ⟨⟨sourceNode, output⟩, c₂, hsource, h⟩ := run_bind_eq_ok_iff.mp h
  obtain ⟨⟨targetNode, input⟩, c₃, htarget, h⟩ := run_bind_eq_ok_iff.mp h
  obtain ⟨⟨e, s₁⟩, c₄, hadd, h⟩ := run_bind_eq_ok_iff.mp h
  obtain ⟨w, hrun, hstore, haddFiles⟩ := run_tryEdit_eq_ok hadd
  have hsaved := saveStore_print_eq_ok h
  rw [haddFiles, (reads_endpoint target).ok htarget, (reads_endpoint source).ok hsource,
    hopenFiles] at hsaved
  dsimp only at hrun hstore hsaved
  obtain ⟨hconnects, _, hid⟩ := Store.addEdge_eq_ok hrun
  obtain ⟨output', _, houtput⟩ := hconnects.output_text
  obtain ⟨input', _, hinput⟩ := hconnects.input_text
  rcases hid with ⟨htruthy, _⟩ | ⟨_, hid, hw⟩
  · cases htruthy
  · have hnew : e.id ∉ s.edges.keys := by
      rw [hid]
      exact Workspace.fresh_notMem_edges ⟨s, c₃.ids⟩ "edge"
    rw [hstore, hw] at hsaved
    refine ⟨p, _, e, hload, ?_, ⟨output', input', houtput.symm, hinput.symm⟩, ?_, hsaved⟩
    · have hids : p.graph.edges.map (·.id) = s.edges.keys := by
        rw [← hconsistent.edge_ids_eq, hgraph]
        rfl
      rwa [hids]
    · rw [Store.graph_putEdge hnew, hgraph]

/-! ## What the file holds afterwards -/

/-- A plain graph is handed out with more nodes and edges as it was taken over, with copies of what
is new. -/
theorem exported_of_extend {g : Graph} {s : Store} {nodes : List Node} {edges : List Edge}
    (hplain : g.Plain) (hgraph : s.graph = g.taken.extend nodes edges) :
    s.exported = g.extend (nodes.map Node.copied) (edges.map Edge.copied) := by
  have hcopied : g.copied = g := g.reordered_copied.eq_self hplain.hasOneOrder
  rw [g.reordered_taken.eq_self hplain.hasOneOrder] at hgraph
  rw [Store.exported, hgraph, Graph.extend, Graph.copied, List.map_append, List.map_append]
  exact congrArg (Graph.extend · _ _) hcopied

/-- A store that is saved with more nodes and edges than the project had writes the project with
copies of these more. -/
theorem exists_text_of_saveFile {p : Project} {s : Store} {files files' : Files}
    {nodes : List Node} {edges : List Edge} (hplain : p.Plain) (hform : p.WellFormed)
    (hgraph : s.graph = p.graph.taken.extend nodes edges)
    (h : s.saveFile files file (.map p.metadata) = .ok files') :
    ∃ text, (p.extend (nodes.map Node.copied) (edges.map Edge.copied)).text = .ok text ∧
      files.writeText file text = .ok files' ∧
      Project.load files' file = Project.ofText text := by
  obtain ⟨q, text, hproject, htext, hwrite⟩ := Store.saveFile_eq_ok h
  rw [exported_of_extend hplain.graph hgraph,
    Store.ofGraph_of_plain _ hplain.metadata hform.metadata.exact] at hproject
  obtain rfl : p.extend (nodes.map Node.copied) (edges.map Edge.copied) = q :=
    Except.ok.inj hproject
  exact ⟨text, htext, hwrite, Store.load_of_text htext hwrite⟩

section

variable {p : Project} {u : Unit}

/-- Adding a node to a plain project appends one node. -/
theorem addNode_extends (hload : Project.load c.files file = .ok p) (hplain : p.Plain)
    (hkeys : p.KeysFit) (hsurvive : p.TextsSurvive) {type : String} {x y : Double}
    {fields : List String} (h : (addNode env file type x y fields extra).run c = .ok u c') :
    ∃ n : Node, n.id ∉ p.graph.ids ∧
      (∃ text, (p.extend [n] []).text = .ok text ∧ c.files.writeText file text = .ok c'.files) ∧
      (n.KeysFit → ∃ n' : Node, n'.id = n.id ∧ n'.type = n.type ∧
        Project.load c'.files file = .ok (p.extend [n'] [])) := by
  have hform := Project.wellFormed_of_load hload
  obtain ⟨p', s, n, hload', hnew, hgraph, hsave⟩ := addNode_eq_ok h
  obtain rfl := Except.ok.inj (hload.symm.trans hload')
  obtain ⟨text, htext, hwrite, hread⟩ := exists_text_of_saveFile hplain hform hgraph hsave
  refine ⟨n.copied, hnew, ⟨text, htext, hwrite⟩, fun hfit => ?_⟩
  obtain ⟨nodes', hsame, htextRead⟩ := Project.ofText_extend hplain hform hkeys hsurvive
    (by simpa using hfit) (by simp) htext
  obtain ⟨n', _, ⟨hid, htype⟩, hnil, rfl⟩ := List.forall₂_cons_left_iff.mp hsame
  obtain rfl := List.forall₂_nil_left_iff.mp hnil
  exact ⟨n', hid, htype, hread.trans htextRead⟩

/-- Connecting two nodes of a plain project appends one edge. -/
theorem connect_extends (hload : Project.load c.files file = .ok p) (hplain : p.Plain)
    (hkeys : p.KeysFit) (hsurvive : p.TextsSurvive) {source target : String}
    (h : (connect env file source target extra).run c = .ok u c') :
    ∃ e : Edge, e.id ∉ p.graph.edges.map (·.id) ∧
      Project.load c'.files file = .ok (p.extend [] [e]) := by
  have hform := Project.wellFormed_of_load hload
  obtain ⟨p', s, e, hload', hnew, hpins, hgraph, hsave⟩ := connect_eq_ok h
  obtain rfl := Except.ok.inj (hload.symm.trans hload')
  obtain ⟨text, htext, _, hread⟩ := exists_text_of_saveFile hplain hform hgraph hsave
  have hcopied : e.copied = e := e.reordered_copied.eq_self hpins.hasOneOrder
  rw [List.map_nil, List.map_singleton, hcopied] at htext
  obtain ⟨nodes', hsame, htextRead⟩ := Project.ofText_extend hplain hform hkeys hsurvive
    (by simp) (by simpa using hpins) htext
  obtain rfl := List.forall₂_nil_left_iff.mp hsame
  exact ⟨e, hnew, hread.trans htextRead⟩

end

/-- A command that edits a plain project adds one node, or one edge, and changes nothing else but
the version. The node is read with its id and type as long as its keys fit. -/
theorem edit_extends_project (env : Environment) {c c' : Console} {file : Path} {p : Project}
    (hload : Project.load c.files file = .ok p) (hplain : p.Plain) (hkeys : p.KeysFit)
    (hsurvive : p.TextsSurvive) :
    (∀ type x y fields extra,
      ((Command.addNode file type x y fields extra).run env).run c = .ok () c' →
        ∃ n : Node, n.id ∉ p.graph.ids ∧
          (∃ text, (p.extend [n] []).text = .ok text ∧
            c.files.writeText file text = .ok c'.files) ∧
          (n.KeysFit → ∃ n' : Node, n'.id = n.id ∧ n'.type = n.type ∧
            Project.load c'.files file = .ok (p.extend [n'] []))) ∧
      ∀ source target extra,
        ((Command.connect file source target extra).run env).run c = .ok () c' →
          ∃ e : Edge, e.id ∉ p.graph.edges.map (·.id) ∧
            Project.load c'.files file = .ok (p.extend [] [e]) :=
  ⟨fun _ _ _ _ _ h => addNode_extends hload hplain hkeys hsurvive h,
    fun _ _ _ h => connect_extends hload hplain hkeys hsurvive h⟩

/-! ## A project of another version -/

/-- A project of version 2.0 with two nodes and an edge from one to the other. -/
def loopProject : Project :=
  ⟨"2.0", ⟨[⟨"a", "Note", .origin, [(.text "text", .text "yes")]⟩,
      ⟨"b", "Note", .origin, [(.text "text", .int (-7))]⟩],
    [⟨"ab", "a", .text "y", "b", .text "x"⟩]⟩, [(.text "author", .text "me")]⟩

def loopText : String :=
  "version: '2.0'\ngraph:\n  nodes:\n  - id: a\n    type: Note\n" ++
    "    position:\n      x: 0.0\n      y: 0.0\n    fields:\n      text: 'yes'\n" ++
    "  - id: b\n    type: Note\n    position:\n      x: 0.0\n      y: 0.0\n" ++
    "    fields:\n      text: -7\n" ++
    "  edges:\n  - id: ab\n    source: a\n    source_output: y\n    target: b\n" ++
    "    target_input: x\nmetadata:\n  author: me\n"

/-- The project, and the definition of its nodes with an input and an output. -/
def loopFiles : Files :=
  ⟨[(["project.yaml"], .file (textBytes loopText)),
    (["d.yaml"], .file (textBytes ("name: Note\ncategory: Notes\ndescription: A note\n" ++
      "fields:\n  text: \x7btype: text, label: Text\x7d\ntemplate: note\npins:\n" ++
      "  inputs: [\x7bname: x, type: f64\x7d]\n  outputs: [\x7bname: y, type: f64\x7d]\n")))]⟩

def loopConsole : Console := .start loopFiles ⟨[], 1⟩

/-- Connects the output of the second node to the input of the first. -/
def connectLoop : Command := .connect projectFile "b.y" "a.x" (some (.ofText "d.yaml"))

theorem plain_loopProject : loopProject.Plain :=
  ⟨⟨by decide, by decide, by simp [loopProject]⟩, rfl⟩

theorem exact_loopProject :
    loopProject.graph.Exact ∧ (Value.map loopProject.metadata).Exact := by
  constructor
  · simp [Graph.Exact, loopProject, Value.Exact, Value.EntriesExact]
  · simp [loopProject, Value.Exact, Value.EntriesExact]

theorem entries?_loopProject : loopProject.entries? = some loopProject.record :=
  Project.entries?_eq_record plain_loopProject.graph exact_loopProject.1
    plain_loopProject.metadata exact_loopProject.2

theorem keysFit_loopProject : loopProject.KeysFit :=
  Project.keysFit_of_entries entries?_loopProject <|
    Project.keysFit_record
      (by simp (disch := decide) [loopProject, Yaml.keysFit, Yaml.pairKeysFit,
        Yaml.keyFits_of_length])
      plain_loopProject.graph.pins
      (by simp (disch := decide) [loopProject, Yaml.keysFit, Yaml.pairKeysFit,
        Yaml.keyFits_of_length])

theorem textsSurvive_loopProject : loopProject.TextsSurvive := by
  intro pairs hpairs
  obtain rfl := Option.some.inj (entries?_loopProject.symm.trans hpairs)
  exact Yaml.pairsSurvive_of_depth 0 loopProject.record (by decide)

theorem sound_loopProject : loopProject.graph.Sound :=
  ⟨by decide, by decide, by simp [loopProject, Graph.ids]⟩

theorem load_loopFiles : Project.load loopFiles projectFile = .ok loopProject := by
  obtain ⟨text, hfile, hprint⟩ : ∃ text, loopFiles.read projectFile = .ok (textBytes text) ∧
      text = Yaml.print loopProject.record :=
    ⟨loopText, rfl, by decide +kernel⟩
  have htext : loopProject.text = .ok text := by
    rw [hprint]
    exact Project.text_eq_print entries?_loopProject (by decide)
  rw [Project.load, Files.readText_of_read (Store.noReturn_of_text htext) hfile]
  exact Project.ofText_eq_self plain_loopProject.graph exact_loopProject.1
    plain_loopProject.metadata exact_loopProject.2 keysFit_loopProject textsSurvive_loopProject
    htext

/-- The definition of the node is loaded. -/
theorem registry_loopConsole :
    ∃ r, (registry noPacks (some (.ofText "d.yaml"))).run loopConsole = .ok r loopConsole := by
  obtain ⟨s, hsettings, hpacks, hpath⟩ : ∃ s,
      Settings.ofSources [] noPacks (EnvironmentFile.read noPacks "") = .good s ∧
        s.loadBuiltinDefinitions = false ∧ s.definitionsPath = none := by
    have hgood : (Settings.ofSources [] noPacks (EnvironmentFile.read noPacks "")).any
        (fun s => decide (s.loadBuiltinDefinitions = false ∧ s.definitionsPath = none)) = true := by
      decide +kernel
    obtain ⟨s, hsettings, hs⟩ := Checked.any_eq_true_iff.mp hgood
    exact ⟨s, hsettings, of_decide_eq_true hs⟩
  obtain ⟨text, hread, hbreaks, hnames⟩ : ∃ text : String,
      loopFiles.read (.ofText "d.yaml") = .ok (textBytes text) ∧ '\r' ∉ text.toList ∧
        (Registry.empty.load Hook.builtin text).2 = .ok ["Note"] :=
    ⟨_, rfl, by decide +kernel, by decide +kernel⟩
  rw [run_registry (by decide) hsettings hpacks hpath]
  exact ⟨_, run_loadPath hbreaks hread (Prod.ext rfl hnames)⟩

/-- The command does what it is asked for. -/
theorem connectLoop_runs :
    ∃ c', (connectLoop.run noPacks).run loopConsole = .ok () c' := by
  obtain ⟨r, hregistry⟩ := registry_loopConsole
  have hopen := openStore_of_load sound_loopProject hregistry load_loopFiles
  rw [connectLoop, Command.run, connect, run_bind_of_ok hopen]
  dsimp only
  exact exists_run_eq_ok (by decide +kernel)

theorem connectLoop_extends :
    ∃ c' e, (connectLoop.run noPacks).run loopConsole = .ok () c' ∧
      Project.load loopFiles projectFile = .ok loopProject ∧ loopProject.Plain ∧
      loopProject.KeysFit ∧ loopProject.TextsSurvive ∧
      Project.load c'.files projectFile = .ok (loopProject.extend [] [e]) := by
  obtain ⟨c', hrun⟩ := connectLoop_runs
  obtain ⟨e, _, hload⟩ := (edit_extends_project noPacks (c := loopConsole) load_loopFiles
    plain_loopProject keysFit_loopProject textsSurvive_loopProject).2 _ _ _ hrun
  exact ⟨c', e, hrun, load_loopFiles, plain_loopProject, keysFit_loopProject,
    textsSurvive_loopProject, hload⟩

/-- The version of the project is lost, although all its values are plain. -/
theorem connectLoop_drops_version :
    ∃ c' q, (connectLoop.run noPacks).run loopConsole = .ok () c' ∧
      Project.load loopFiles projectFile = .ok loopProject ∧ loopProject.Plain ∧
      Project.load c'.files projectFile = .ok q ∧ q.version ≠ loopProject.version := by
  obtain ⟨c', hrun⟩ := connectLoop_runs
  obtain ⟨e, _, hload⟩ := connect_extends (c := loopConsole) load_loopFiles plain_loopProject
    keysFit_loopProject textsSurvive_loopProject hrun
  exact ⟨c', _, hrun, load_loopFiles, plain_loopProject, hload, show "1.0" ≠ "2.0" by decide⟩

end CommandLine

end NodeGraph
