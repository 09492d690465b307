import NodeGraph.Proofs.Files
import NodeGraph.Proofs.Project.Reading
import NodeGraph.Proofs.Store.Integrity
import NodeGraph.Proofs.Store.Opening

/-!
# Saving stores

A store that is saved can be loaded again exactly if its pins are texts, and plain data comes back
as it was. Both hold as long as no key is written longer than what is searched for its colon, and
the second as long as no text is broken behind an escape far to the right.
-/

namespace NodeGraph

open Yaml (keysFit pairKeysFit itemKeysFit keyFits_of_length)

namespace Store

/-- Writes the project file for the graph in a store. -/
def saveFile (s : Store) (files : Files) (file : Path) (metadata : Value) : Except Fault Files := do
  files.writeText file (← s.save metadata)

end Store

/-- The project in a file. -/
def Project.load (files : Files) (file : Path) : Except Fault Project := do
  ofText (← files.readText file)

theorem Project.wellFormed_of_load {files : Files} {file : Path} {p : Project}
    (h : Project.load files file = .ok p) : p.WellFormed := by
  obtain ⟨_, _, hread⟩ := bind_eq_ok_iff.mp h
  exact wellFormed_of_ofText hread

namespace Store

variable {s : Store} {files files' : Files} {file : Path} {metadata : Value}

theorem saveFile_eq_ok (h : s.saveFile files file metadata = .ok files') :
    ∃ p text, Project.ofGraph s.exported metadata = .ok p ∧ p.text = .ok text ∧
      files.writeText file text = .ok files' := by
  simp only [saveFile, save, bind, Except.bind] at h
  cases hgraph : Project.ofGraph s.exported metadata with
  | error fault =>
      rw [hgraph] at h
      cases h
  | ok p =>
      rw [hgraph] at h
      dsimp only at h
      cases htext : p.text with
      | error fault =>
          rw [htext] at h
          cases h
      | ok text =>
          rw [htext] at h
          exact ⟨p, text, rfl, htext, h⟩

/-- The text of a project has no carriage returns. -/
theorem noReturn_of_text {p : Project} {text : String} (htext : p.text = .ok text) :
    '\r' ∉ text.toList := by
  obtain ⟨pairs, -, -, rfl⟩ := Project.text_eq_ok htext
  have hwritten := Yaml.all_isWritten_print pairs
  rw [List.all_eq_true] at hwritten
  intro hmem
  have hreturn := hwritten _ hmem
  revert hreturn
  decide

/-- What is saved is read from the file as it was written. -/
theorem readText_of_text {p : Project} {text : String} (htext : p.text = .ok text)
    (h : files.writeText file text = .ok files') : files'.readText file = .ok text :=
  Files.readText_of_writeText (noReturn_of_text htext) h

theorem load_of_text {p : Project} {text : String} (htext : p.text = .ok text)
    (h : files.writeText file text = .ok files') :
    Project.load files' file = Project.ofText text := by
  rw [Project.load, readText_of_text htext h]
  rfl

theorem ofGraph_eq_ok {g : Graph} {p : Project} (h : Project.ofGraph g metadata = .ok p) :
    p.graph = g := by
  unfold Project.ofGraph at h
  cases hfields : ((Fields.decode (if metadata.isTruthy then metadata else .map [])).under
      (.name "metadata")).orFault with
  | error fault =>
      simp only [hfields] at h
      cases h
  | ok fields =>
      simp only [hfields] at h
      obtain rfl := Except.ok.inj h
      rfl

theorem ofGraph_of_plain (g : Graph) {metadata : Fields}
    (hplain : Value.entriesPlain metadata = true) (hexact : (Value.map metadata).Exact) :
    Project.ofGraph g (.map metadata) = .ok ⟨"1.0", g, metadata⟩ := by
  have hsame : (if (Value.map metadata).isTruthy then Value.map metadata else .map []) =
      .map metadata := by
    cases metadata <;> rfl
  rw [Project.ofGraph]
  simp only [hsame, Project.decode_fields hplain hexact]
  rfl

/-- A file with a sound graph is opened, and the store takes that graph over. -/
theorem exists_openFile {p : Project} {text : String} (hsound : p.graph.Sound)
    (hfile : files.readText file = .ok text) (hread : Project.ofText text = .ok p) (w : Workspace) :
    ∃ w', (openFile files file).run w = .ok p w' ∧ w'.store.graph = p.graph.taken := by
  obtain ⟨w', hopen⟩ := exists_openGraph hsound w
  refine ⟨w', ?_, (openGraph_eq_ok hopen).2.1⟩
  rw [openFile, hfile]
  exact (openProject_eq_ok_iff hread).mpr hopen

theorem Consistent.sound (h : s.Consistent) : s.graph.Sound :=
  ⟨h.nodup_ids, h.nodup_edge_ids, fun _ he => h.ends_mem he⟩

end Store

def projectFile : Path := ⟨"", ["project.yaml"]⟩

/-- A project that can be written is saved to a new file. -/
theorem exists_saveFile (s : Store) (metadata : Value) {p : Project} {text : String}
    (hgraph : Project.ofGraph s.exported metadata = .ok p) (htext : p.text = .ok text) :
    ∃ files, s.saveFile .empty projectFile metadata = .ok files ∧
      Project.load files projectFile = Project.ofText text := by
  obtain ⟨files, hwrite⟩ : ∃ files, Files.empty.writeText projectFile text = .ok files := ⟨_, rfl⟩
  refine ⟨files, ?_, Store.load_of_text htext hwrite⟩
  simp only [Store.saveFile, Store.save, hgraph, bind, Except.bind, htext]
  exact hwrite

/-! ## Loading what was saved -/

theorem Value.plain?_copied_eq_text_iff {v : Value} {text : String} :
    v.copied.plain? = some (.text text) ↔ v.plain? = some (.text text) := by
  cases v <;> simp [copied, plain?, mapOf]

theorem Project.textPins_copied_iff {e : Edge} : TextPins e.copied ↔ TextPins e := by
  simp only [TextPins, Edge.copied, Value.plain?_copied_eq_text_iff]

/-- A store that is saved, and whose keys fit, can be loaded again exactly if its pins are texts,
whatever its positions and values are. -/
theorem Store.exists_load_iff {s : Store} {files files' : Files} {file : Path} {metadata : Value}
    (hkeys : ∀ p, Project.ofGraph s.exported metadata = .ok p → p.KeysFit)
    (h : s.saveFile files file metadata = .ok files') :
    (∃ p, Project.load files' file = .ok p) ↔ ∀ e ∈ s.graph.edges, Project.TextPins e := by
  obtain ⟨p, text, hgraph, htext, hwrite⟩ := Store.saveFile_eq_ok h
  have hexported : s.exported.edges = s.graph.edges.map Edge.copied := rfl
  rw [Store.load_of_text htext hwrite, Project.exists_ofText_iff (hkeys p hgraph) htext,
    Store.ofGraph_eq_ok hgraph, hexported, List.forall_mem_map]
  exact forall₂_congr fun e _ => Project.textPins_copied_iff

/-- The call that takes over a graph. -/
def takeOver (g : Graph) : Call :=
  ⟨.empty, .standard, .importGraph (g.nodes.map .good) (g.edges.map .good)⟩

/-- Two nodes at places that are not finite, with values that are no plain data, and an edge with a
pin that becomes a text only where it is written. -/
def oddGraph : Graph :=
  ⟨[⟨"a", "Constant", ⟨.nan, .infinity true⟩,
        [(.text "when", .date ⟨2024, 2, 29⟩), (.int 7, .set [.bytes [104, 105], .null])]⟩,
      ⟨"b", "Print", ⟨.infinity false, .nan⟩, [(.text "size", .set [.int 3, .int 11])]⟩],
    [⟨"e", "a", .bytes [111, 117, 116], "b", .text "value"⟩]⟩

theorem oddGraph_loaded :
    ∃ files, ((Workspace.start ⟨[], 1⟩).after [takeOver oddGraph]).store.saveFile .empty projectFile
        .null = .ok files ∧
      ∃ p, Project.load files projectFile = .ok p := by
  set s := ((Workspace.start ⟨[], 1⟩).after [takeOver oddGraph]).store
  have hgraph : s.graph = oddGraph.taken := by rfl
  have hexported : s.exported = oddGraph := by rfl
  set p : Project := ⟨"1.0", s.exported, []⟩ with hp
  obtain ⟨pairs, hentries, hfit, hints⟩ : ∃ pairs, p.entries? = some pairs ∧
      keysFit (.map pairs) = true ∧ p.isWritable = true := by
    rw [hp, hexported]
    refine ⟨_, rfl, ?_, by decide⟩
    have hseven : Int.repr 7 = "7" := by decide
    simp (disch := decide) [keysFit, pairKeysFit, itemKeysFit, Project.positionValue, Value.mapOf,
      Value.insert, Value.eqv, Value.literal, hseven, keyFits_of_length]
  obtain ⟨files, hsave, -⟩ := exists_saveFile s .null rfl
    (Project.text_eq_print hentries hints)
  have hkeys : ∀ q, Project.ofGraph s.exported .null = .ok q → q.KeysFit := by
    intro q hq
    obtain rfl : p = q := Except.ok.inj hq
    exact Project.keysFit_of_entries hentries hfit
  refine ⟨files, hsave, (Store.exists_load_iff hkeys hsave).mpr ?_⟩
  have hpin : Schema.utf8? [111, 117, 116] = some "out" := by decide +kernel
  rw [hgraph]
  simp [Graph.taken, oddGraph, Project.TextPins, hpin, Value.plain?]

/-- A graph with an edge whose output pin is changed to a number. -/
def numberPin : List Call :=
  [takeOver ⟨[⟨"a", "Constant", .origin, []⟩, ⟨"b", "Print", .origin, []⟩],
      [⟨"e", "a", .text "value", "b", .text "value"⟩]⟩,
    ⟨.empty, .standard, .updateEdge (.text "e") ⟨.null, .int 5, .null, .null⟩⟩]

theorem graph_numberPin :
    ((Workspace.start ⟨[], 1⟩).after numberPin).store.graph =
      ⟨[⟨"a", "Constant", .origin, []⟩, ⟨"b", "Print", .origin, []⟩],
        [⟨"e", "a", .int 5, "b", .text "value"⟩]⟩ := by rfl

theorem numberPin_not_loaded :
    ∃ files, ((Workspace.start ⟨[], 1⟩).after numberPin).store.saveFile .empty projectFile
        (.map []) = .ok files ∧
      ∀ p, Project.load files projectFile ≠ .ok p := by
  set s := ((Workspace.start ⟨[], 1⟩).after numberPin).store
  set p : Project := ⟨"1.0", s.graph, []⟩ with hp
  obtain ⟨pairs, hentries, hfit, hints⟩ : ∃ pairs, p.entries? = some pairs ∧
      keysFit (.map pairs) = true ∧ p.isWritable = true := by
    rw [hp, graph_numberPin]
    refine ⟨_, rfl, ?_, by decide⟩
    simp (disch := decide) [keysFit, pairKeysFit, itemKeysFit, Project.positionValue, Value.mapOf,
      keyFits_of_length]
  have htext := Project.text_eq_print hentries hints
  obtain ⟨files, hsave, hload⟩ := exists_saveFile s (.map []) rfl htext
  refine ⟨files, hsave, fun q hq => ?_⟩
  have hpins := (Project.exists_ofText_iff (Project.keysFit_of_entries hentries hfit) htext).mp
    ⟨q, hload.symm.trans hq⟩
  rw [hp, graph_numberPin] at hpins
  obtain ⟨output, -, houtput, -⟩ := hpins _ List.mem_cons_self
  cases houtput

/-! ## Plain data -/

theorem Edge.HasTextPins.hasOneOrder {e : Edge} (h : e.HasTextPins) :
    e.sourceOutput.HasOneOrder ∧ e.targetInput.HasOneOrder := by
  obtain ⟨output, input, houtput, hinput⟩ := h
  rw [houtput, hinput]
  exact ⟨trivial, trivial⟩

theorem Graph.Plain.hasOneOrder {g : Graph} (h : g.Plain) : g.HasOneOrder where
  fields n hn := Value.entriesHaveOneOrder_of_entriesPlain n.fields (h.fields n hn)
  pins e he := Edge.HasTextPins.hasOneOrder (h.pins e he)

namespace Workspace

/-- Plain data that a run has led to is loaded as it was saved, and opened to the same graph, if its
keys fit and its texts survive. -/
theorem load_and_open_saved (ids : Ids) (calls : List Call) {files files' : Files} {file : Path}
    {metadata : Fields} (hplain : ((start ids).after calls).store.graph.Plain)
    (hexact : ((start ids).after calls).store.graph.Exact)
    (hmetadata : Value.entriesPlain metadata = true) (hexact' : (Value.map metadata).Exact)
    (hkeys : (Project.mk "1.0" ((start ids).after calls).store.graph metadata).KeysFit)
    (hsurvive : (Project.mk "1.0" ((start ids).after calls).store.graph metadata).TextsSurvive)
    (h : ((start ids).after calls).store.saveFile files file (.map metadata) = .ok files') :
    Project.load files' file = .ok ⟨"1.0", ((start ids).after calls).store.graph, metadata⟩ ∧
      ∀ fresh : Ids, ∃ w, (Store.openFile files' file).run (start fresh) =
          .ok ⟨"1.0", ((start ids).after calls).store.graph, metadata⟩ w ∧
        w.store.graph = ((start ids).after calls).store.graph := by
  have hconsistent : ((start ids).after calls).store.Consistent := consistent_after .empty calls
  generalize ((start ids).after calls).store = s at *
  obtain ⟨p, text, hgraph, htext, hwrite⟩ := Store.saveFile_eq_ok h
  rw [Store.exported, s.graph.reordered_copied.eq_self hplain.hasOneOrder] at hgraph
  obtain rfl : (⟨"1.0", s.graph, metadata⟩ : Project) = p :=
    Except.ok.inj ((Store.ofGraph_of_plain s.graph hmetadata hexact').symm.trans hgraph)
  have hread := Project.ofText_eq_self hplain hexact hmetadata hexact' hkeys hsurvive htext
  refine ⟨(Store.load_of_text htext hwrite).trans hread, fun fresh => ?_⟩
  obtain ⟨w, hopen, htaken⟩ := Store.exists_openFile hconsistent.sound
    (Store.readText_of_text htext hwrite) hread (start fresh)
  exact ⟨w, hopen, htaken.trans (s.graph.reordered_taken.eq_self hplain.hasOneOrder)⟩

end Workspace

/-- Two nodes and an edge, with values that look like others where they are written. -/
def plainGraph : Graph :=
  ⟨[⟨"a", "Constant", ⟨.finite false 0x13333333333333 (-54) (by decide), .zero⟩,
        [(.text "value", .text "yes"),
          (.text "on", .list [.text "first\nsecond ", .null, .int (-7), .text "2024-01-01"])]⟩,
      ⟨"b", "Print", .origin, []⟩],
    [⟨"e", "a", .text "value", "b", .text "value"⟩]⟩

def plainMetadata : Fields := [(.text "note: é", .map [(.text "<<", .text "1e3")])]

theorem plainGraph_loaded_and_opened :
    ∃ files, ((Workspace.start ⟨[], 1⟩).after [takeOver plainGraph]).store.saveFile .empty
        projectFile (.map plainMetadata) = .ok files ∧
      Project.load files projectFile = .ok ⟨"1.0", plainGraph, plainMetadata⟩ ∧
      ∀ fresh : Ids, ∃ w, (Store.openFile files projectFile).run (Workspace.start fresh) =
          .ok ⟨"1.0", plainGraph, plainMetadata⟩ w ∧ w.store.graph = plainGraph := by
  have hgraph : ((Workspace.start ⟨[], 1⟩).after [takeOver plainGraph]).store.graph =
      plainGraph := by rfl
  have hplain : plainGraph.Plain := ⟨by decide, by decide, by simp [plainGraph]⟩
  have hexact : plainGraph.Exact := by
    simp [Graph.Exact, plainGraph, Value.Exact, Value.EntriesExact, Value.AllExact]
  have hmetadata : Value.entriesPlain plainMetadata = true := by decide
  have hexact' : (Value.map plainMetadata).Exact := by
    simp [plainMetadata, Value.Exact, Value.EntriesExact]
  set p : Project := ⟨"1.0", plainGraph, plainMetadata⟩ with hp
  have hentries : p.entries? = some p.record :=
    Project.entries?_eq_record hplain hexact hmetadata hexact'
  have hfields : ∀ n ∈ p.graph.nodes, pairKeysFit n.fields = true := by
    simp (disch := decide) [hp, plainGraph, keysFit, pairKeysFit, itemKeysFit, keyFits_of_length]
  have hkeys : p.KeysFit := Project.keysFit_of_entries hentries
    (Project.keysFit_record hfields hplain.pins
      (by simp (disch := decide) [hp, plainMetadata, keysFit, pairKeysFit, keyFits_of_length]))
  have hsurvive : p.TextsSurvive := by
    intro pairs hpairs
    obtain rfl := Option.some.inj (hentries.symm.trans hpairs)
    exact Yaml.pairsSurvive_of_depth 0 p.record (by decide)
  have htext := Project.text_eq_print hentries (by decide)
  have hproject : Project.ofGraph
      ((Workspace.start ⟨[], 1⟩).after [takeOver plainGraph]).store.exported
        (.map plainMetadata) = .ok p :=
    Store.ofGraph_of_plain plainGraph hmetadata hexact'
  obtain ⟨files, hsave, -⟩ := exists_saveFile _ _ hproject htext
  have hloaded := Workspace.load_and_open_saved ⟨[], 1⟩ [takeOver plainGraph]
    (by rwa [hgraph]) (by rwa [hgraph]) hmetadata hexact' (by rwa [hgraph]) (by rwa [hgraph]) hsave
  rw [hgraph] at hloaded
  exact ⟨files, hsave, hloaded⟩

/-! ## A text that is broken behind an escape -/

/-- A text in mappings within one another. -/
def nested (s : String) : ℕ → Value
  | 0 => .text s
  | n + 1 => .map [(.text "k", nested s n)]

theorem nested_injective (n : ℕ) : Function.Injective (nested · n) := by
  intro s t h
  induction n with
  | zero => exact Value.text.inj h
  | succ n ih =>
      refine ih ?_
      simpa [nested] using h

section

open Yaml Printer

theorem rereadAt_nested (s : String) (n indent : ℕ) :
    rereadAt .behindKey indent (indent + 2) (nested s n) =
      nested (rereadText false (indent + 2 * n + 2) (indent + 2 * n + 3) s) n := by
  induction n generalizing indent with
  | zero => rfl
  | succ n ih =>
      have hstyle : styleOf true "k" = .plain := by decide
      have hname : (textAt true (indent + 2 + 2) (indent + 2) "k").length = 1 := by
        simp [textAt, hstyle, plainFrom_unsplit]
      have hrecord : rereadAt .behindKey indent (indent + 2) (nested s (n + 1)) =
          .map [(.text "k", rereadUnder (indent + 2) "k" (nested s n))] :=
        rereadAt_record .behindKey indent (indent + 2) ["k"] [("k", nested s n)] rfl
          (by decide) (by decide)
      rw [hrecord, rereadUnder, hname, ih (indent + 2), nested]
      congr 6 <;> omega

end

/-- Metadata that reach column 80 with a text that has a space behind an escape. -/
def deepMetadata : Fields := [(.text "k", nested "xé yz" 38)]

theorem exact_nested (s : String) (n : ℕ) : (nested s n).Exact := by
  induction n with
  | zero => trivial
  | succ n ih => exact ⟨by simp, ih, trivial⟩

theorem keysFit_nested (s : String) (n : ℕ) : keysFit (nested s n) = true := by
  induction n with
  | zero => rfl
  | succ n ih => simp (disch := decide) [nested, keysFit, pairKeysFit, keyFits_of_length, ih]

theorem deepMetadata_not_kept :
    Value.entriesPlain deepMetadata = true ∧ (Value.map deepMetadata).Exact ∧
      ∃ files p, ((Workspace.start ⟨[], 1⟩).after []).store.saveFile .empty projectFile
          (.map deepMetadata) = .ok files ∧
        Project.load files projectFile = .ok p ∧ p.metadata ≠ deepMetadata := by
  have hplain : Value.entriesPlain deepMetadata = true := by decide
  have hexact : (Value.map deepMetadata).Exact := exact_nested "xé yz" 39
  set p : Project := ⟨"1.0", .empty, deepMetadata⟩ with hp
  have hgraph : p.graph.Plain ∧ p.graph.Exact := by
    refine ⟨⟨?_, ?_, ?_⟩, ?_⟩ <;> simp [hp, Graph.empty, Graph.Exact]
  have hentries : p.entries? = some p.record :=
    Project.entries?_eq_record hgraph.1 hgraph.2 hplain hexact
  have hkeys : p.KeysFit := Project.keysFit_of_entries hentries
    (Project.keysFit_record (by simp [hp, Graph.empty]) hgraph.1.pins
      (keysFit_nested "xé yz" 39))
  have htext := Project.text_eq_print hentries (by decide)
  obtain ⟨files, hsave, hload⟩ := exists_saveFile
    ((Workspace.start ⟨[], 1⟩).after []).store (.map deepMetadata)
    (Store.ofGraph_of_plain .empty hplain hexact) htext
  -- what is read at the bottom of the metadata
  set lost := Yaml.rereadText false 80 81 "xé yz" with hlost
  have hmetadata : Yaml.rereadUnder 0 "metadata" (.map deepMetadata) =
      .map (Value.textEntries [("k", nested lost 38)]) := rereadAt_nested "xé yz" 39 0
  have hfields : Fields.decode (Yaml.rereadUnder 0 "metadata" (.map deepMetadata)) =
      .good [(.text "k", nested lost 38)] := by
    rw [hmetadata, Fields.decode_textEntries]
    rfl
  obtain ⟨g, hgraph⟩ : ∃ g, Graph.decode
      (Yaml.rereadUnder 0 "graph" (Project.graphRecord .empty)) = .good g :=
    @Project.stays_graph .empty _ (by simp [Graph.empty]) rfl .behindKey 0 _
  have hrecord := Yaml.mapOf_record 0 ["version", "graph", "metadata"]
    [("version", .text "1.0"), ("graph", Project.graphRecord .empty),
      ("metadata", .map deepMetadata)] rfl (by decide) (by decide)
  have hread := (Project.ofText_eq_ofValue hentries hkeys htext).trans
    ((congrArg Project.ofValue hrecord).trans (Project.ofValue_record hgraph hfields))
  refine ⟨hplain, hexact, files, _, hsave, hload.trans hread, fun hsame => ?_⟩
  have hleaf : nested lost 38 = nested "xé yz" 38 := by
    simpa [deepMetadata] using hsame
  have hkept : lost = "xé yz" := nested_injective 38 hleaf
  revert hkept
  rw [hlost]
  decide +kernel

end NodeGraph
