import NodeGraph.Proofs.Store.Importing
import NodeGraph.Proofs.Validation.Detached

/-!
# Opening graphs

A graph that was read is taken over exactly if it is sound, as nothing else can be wrong with it.

Validation does not look at ids, and sees an edge at its ends only. So of the graphs that pass it,
those are taken over in which no id is repeated and every edge has a node at one end at least.
-/

namespace NodeGraph

namespace Store

open Edit

variable {w w' : Workspace} {g : Graph} {fault : Fault}

/-! ## Items that were read -/

theorem map_good_injective {α : Type} : Function.Injective (List.map (Checked.good (α := α))) :=
  List.map_injective_iff.mpr fun _ _ h => Checked.good.inj h

/-- What stands between items that were read was read. -/
theorem map_good_eq_append_cons {α : Type} {xs before : List α} {item : Checked α}
    {after : List (Checked α)} (h : xs.map .good = before.map .good ++ item :: after) :
    ∃ a rest, item = .good a ∧ xs = before ++ a :: rest := by
  obtain ⟨front, back, rfl, hfront, hback⟩ := List.map_eq_append_iff.mp h
  obtain ⟨a, rest, rfl, hitem, _⟩ := List.map_eq_cons_iff.mp hback
  exact ⟨a, rest, hitem.symm, by rw [map_good_injective hfront]⟩

/-- An id that comes back makes the ids repeat. -/
theorem not_nodup_ids {α : Type} {id : α → String} {before rest : List α} {a : α}
    (h : id a ∈ before.map id) : ¬ ((before ++ a :: rest).map id).Nodup := by
  rw [List.map_append, List.map_cons]
  exact fun hnodup => (List.nodup_append.mp hnodup).2.2 _ h _ List.mem_cons_self rfl

/-! ## Whole graphs -/

/-- A graph is taken over if it is sound, and the store then holds it and nothing else. -/
theorem openGraph_eq_ok_iff :
    (openGraph g).run w = .ok () w' ↔
      ∃ h : g.Sound, w' = ⟨ofGraph g.taken (Graph.sound_taken_iff.mpr h), w.ids⟩ := by
  rw [openGraph, importGraph_eq_ok_iff]
  constructor
  · rintro ⟨⟨nodes, edges⟩, hsound, hnodes, hedges, rfl⟩
    obtain rfl := map_good_injective hnodes
    obtain rfl := map_good_injective hedges
    exact ⟨hsound, rfl⟩
  · rintro ⟨hsound, rfl⟩
    exact ⟨g, hsound, rfl, rfl, rfl⟩

/-- A graph that is taken over is sound, and the store then holds it with copies of its nodes. -/
theorem openGraph_eq_ok {u : Unit} (h : (openGraph g).run w = .ok u w') :
    g.Sound ∧ w'.store.graph = g.taken ∧ w'.ids = w.ids := by
  obtain ⟨hsound, rfl⟩ := openGraph_eq_ok_iff.mp h
  exact ⟨hsound, graph_ofGraph (Graph.sound_taken_iff.mpr hsound), rfl⟩

/-- What is wrong with a graph that is not taken over. -/
theorem openGraph_error (h : (openGraph g).run w = .error fault w') :
    (∃ id, fault = .duplicateNode id ∧ ¬ g.ids.Nodup) ∨
      (∃ id, fault = .duplicateEdge id ∧ ¬ (g.edges.map (·.id)).Nodup) ∨
      ∃ e ∈ g.edges, ¬ (e.source ∈ g.ids ∧ e.target ∈ g.ids) := by
  obtain ⟨nodes, edges⟩ := g
  obtain ⟨hrefusal, _⟩ := importGraph_eq_error_iff.mp h
  generalize fault.message? = wording at hrefusal
  cases hrefusal with
  | unreadableNode hnodes _ hitem =>
      obtain ⟨n, _, rfl, _⟩ := map_good_eq_append_cons hnodes
      cases hitem
  | repeatedNode hnodes _ hid =>
      obtain ⟨_, rest, ⟨⟩, rfl⟩ := map_good_eq_append_cons hnodes
      exact .inl ⟨_, rfl, not_nodup_ids hid⟩
  | unreadableEdge _ hedges _ hitem =>
      obtain ⟨e, _, rfl, _⟩ := map_good_eq_append_cons hedges
      cases hitem
  | repeatedEdge _ hedges _ hid =>
      obtain ⟨_, rest, ⟨⟩, rfl⟩ := map_good_eq_append_cons hedges
      exact .inr (.inl ⟨_, rfl, not_nodup_ids hid⟩)
  | missingEnds hnodes hedges _ _ hends =>
      obtain ⟨_, rest, ⟨⟩, rfl⟩ := map_good_eq_append_cons hedges
      obtain rfl := map_good_injective hnodes
      exact .inr (.inr ⟨_, by simp, hends⟩)

/-- Every sound graph is taken over. -/
theorem exists_openGraph (h : g.Sound) (w : Workspace) : ∃ w', (openGraph g).run w = .ok () w' :=
  ⟨_, openGraph_eq_ok_iff.mpr ⟨h, rfl⟩⟩

/-- Opening a file that can be read is taking over its graph. -/
theorem openProject_of_ofText {text : String} {p : Project} (hread : Project.ofText text = .ok p) :
    (openProject text).run w = ((openGraph p.graph >>= fun _ => pure p).run w) := by
  rw [openProject, hread]
  rfl

theorem openProject_eq_ok_iff {text : String} {p : Project}
    (hread : Project.ofText text = .ok p) :
    (openProject text).run w = .ok p w' ↔ (openGraph p.graph).run w = .ok () w' := by
  rw [openProject_of_ofText hread, run_bind_pure_eq_ok_iff]
  exact ⟨fun ⟨_, h, _⟩ => h, fun h => ⟨(), h, rfl⟩⟩

theorem openProject_eq_error_iff {text : String} {p : Project}
    (hread : Project.ofText text = .ok p) :
    (openProject text).run w = .error fault w' ↔ (openGraph p.graph).run w = .error fault w' := by
  rw [openProject_of_ofText hread, run_bind_eq_error_iff]
  refine or_iff_left ?_
  rintro ⟨_, _, _, h⟩
  cases h

end Store

/-! ## Files that pass validation -/

section

variable {text : String} {p : Project} {r : Registry} {w : Workspace} {lines : List String}

theorem validate_of_report {g : Graph} (h : validationReport g r = .ok (true, lines)) :
    validate g r = .ok [] := by
  obtain ⟨errors, hvalidate, hreport⟩ := bind_eq_ok_iff.mp h
  split at hreport
  · rename_i hempty
    rw [hvalidate, List.isEmpty_iff.mp hempty]
  · cases hreport

/-- With a node at one end of every edge, a graph that passes validation has all ends. -/
theorem ends_of_validate {g : Graph} (h : validate g r = .ok [])
    (hends : ∀ e ∈ g.edges, e.source ∈ g.ids ∨ e.target ∈ g.ids) :
    ∀ e ∈ g.edges, e.source ∈ g.ids ∧ e.target ∈ g.ids := by
  intro e he
  have hsame := source_mem_iff_target_mem h he
  rcases hends e he with hsource | htarget
  · exact ⟨hsource, hsame.mp hsource⟩
  · exact ⟨hsame.mpr htarget, htarget⟩

/-- A file that passes validation can be opened if no two of its nodes and no two of its edges have
the same id, and fails to open because of a repeated id otherwise. A missing end of an edge is never
the reason, as every edge with a node at one end has both. -/
theorem openProject_of_report (hread : Project.ofText text = .ok p)
    (hreport : validationReport p.graph r = .ok (true, lines))
    (hends : ∀ e ∈ p.graph.edges, e.source ∈ p.graph.ids ∨ e.target ∈ p.graph.ids) :
    ((∃ w', (Store.openProject text).run w = .ok p w') ↔
      p.graph.ids.Nodup ∧ (p.graph.edges.map (·.id)).Nodup) ∧
    ∀ fault w', (Store.openProject text).run w = .error fault w' →
      ∃ id, fault = .duplicateNode id ∨ fault = .duplicateEdge id := by
  have hboth := ends_of_validate (validate_of_report hreport) hends
  constructor
  · simp only [Store.openProject_eq_ok_iff hread]
    constructor
    · rintro ⟨w', hopen⟩
      obtain ⟨hsound, _⟩ := Store.openGraph_eq_ok hopen
      exact ⟨hsound.nodup_ids, hsound.nodup_edge_ids⟩
    · rintro ⟨hids, hedgeIds⟩
      exact Store.exists_openGraph ⟨hids, hedgeIds, hboth⟩ w
  · intro fault w' hopen
    rw [Store.openProject_eq_error_iff hread] at hopen
    rcases Store.openGraph_error hopen with ⟨id, rfl, _⟩ | ⟨id, rfl, _⟩ | ⟨e, he, hnot⟩
    · exact ⟨id, .inl rfl⟩
    · exact ⟨id, .inr rfl⟩
    · exact absurd (hboth e he) hnot

end

/-- A mark, with a label if one likes, which may stand behind another one. -/
def markType : NodeDefinition where
  name := "Mark"
  category := "Marks"
  description := "A mark"
  fields := ⟨[("label", ⟨.text, "Label", none, [], .null, false, none⟩)], by simp⟩
  pins := ⟨[⟨"previous", "mark", none, true⟩], [⟨"next", "mark", none, false⟩], by simp, by simp⟩
  template := ""
  hook := none

def marks : Registry := Registry.empty.add markType

/-- Whether a text is a project with a graph that passes a test. -/
def reads (text : String) (test : Graph → Bool) : Bool :=
  (Project.ofText text).toOption.any fun p => test p.graph

theorem exists_of_reads {text : String} {test : Graph → Bool} (h : reads text test = true) :
    ∃ p, Project.ofText text = .ok p ∧ test p.graph = true := by
  unfold reads at h
  cases hread : Project.ofText text with
  | error fault =>
      rw [hread] at h
      cases h
  | ok p =>
      rw [hread] at h
      exact ⟨p, rfl, h⟩

/-- Whether a graph has nodes of these ids, and edges of these ids from and to these nodes. -/
def hasShape (ids : List String) (wires : List (String × String × String)) (g : Graph) : Bool :=
  g.ids = ids && g.edges.map (fun e => (e.id, e.source, e.target)) = wires

/-- Whether a graph of marks has this shape and passes validation. -/
def passes (ids : List String) (wires : List (String × String × String)) (g : Graph) : Bool :=
  hasShape ids wires g && (validationReport g marks).toOption.any (·.1)

theorem hasShape_iff {ids : List String} {wires : List (String × String × String)} {g : Graph} :
    hasShape ids wires g = true ↔
      g.ids = ids ∧ g.edges.map (fun e => (e.id, e.source, e.target)) = wires := by
  rw [hasShape, Bool.and_eq_true, decide_eq_true_iff, decide_eq_true_iff]

theorem passes_eq_true {ids : List String} {wires : List (String × String × String)} {g : Graph}
    (h : passes ids wires g = true) :
    ∃ lines, g.ids = ids ∧ g.edges.map (fun e => (e.id, e.source, e.target)) = wires ∧
      validationReport g marks = .ok (true, lines) := by
  rw [passes, Bool.and_eq_true, hasShape_iff] at h
  obtain ⟨⟨hids, hwires⟩, hreport⟩ := h
  cases hvalidation : validationReport g marks with
  | error fault =>
      rw [hvalidation] at hreport
      cases hreport
  | ok report =>
      obtain ⟨good, lines⟩ := report
      rw [hvalidation] at hreport
      obtain rfl : good = true := hreport
      exact ⟨lines, hids, hwires, rfl⟩

/-- A file with two marks, one behind the other. -/
def markFile : String :=
  "graph:\n  nodes:\n  - id: a\n    type: Mark\n    fields:\n      label: first\n" ++
    "  - id: b\n    type: Mark\n    fields:\n      label: second\n" ++
    "  edges:\n  - id: ab\n    source: a\n    source_output: next\n    target: b\n" ++
    "    target_input: previous\n"

/-- A file with the same mark twice. -/
def twinsFile : String :=
  "graph:\n  nodes:\n  - id: a\n    type: Mark\n  - id: a\n    type: Mark\n"

theorem markFile_opens :
    ∃ p lines w', Project.ofText markFile = .ok p ∧ p.graph.ids = ["a", "b"] ∧
      p.graph.edges.map (fun e => (e.id, e.source, e.target)) = [("ab", "a", "b")] ∧
      validationReport p.graph marks = .ok (true, lines) ∧
      (∀ e ∈ p.graph.edges, e.source ∈ p.graph.ids ∨ e.target ∈ p.graph.ids) ∧
      (Store.openProject markFile).run ⟨.empty, ⟨[], 1⟩⟩ = .ok p w' := by
  have hpasses : reads markFile (passes ["a", "b"] [("ab", "a", "b")]) = true := by decide +kernel
  obtain ⟨p, hread, hpasses⟩ := exists_of_reads hpasses
  obtain ⟨lines, hids, hwires, hreport⟩ := passes_eq_true hpasses
  have hends : ∀ e ∈ p.graph.edges, e.source ∈ p.graph.ids ∨ e.target ∈ p.graph.ids := by
    intro e he
    have hwire := List.mem_map_of_mem (f := fun e : Edge => (e.id, e.source, e.target)) he
    rw [hwires, List.mem_singleton] at hwire
    simp only [Prod.mk.injEq] at hwire
    simp [hids, hwire]
  have hedgeIds : p.graph.edges.map (·.id) = ["ab"] := by
    simpa using congrArg (List.map Prod.fst) hwires
  obtain ⟨w', hopen⟩ := (openProject_of_report hread hreport hends).1.mpr
    ⟨by simp [hids], by simp [hedgeIds]⟩
  exact ⟨p, lines, w', hread, hids, hwires, hreport, hends, hopen⟩

/-- A node that is there twice passes validation, and the file cannot be opened. -/
theorem twinsFile_passes_and_fails :
    ∃ p lines id w', Project.ofText twinsFile = .ok p ∧
      validationReport p.graph marks = .ok (true, lines) ∧
      (Store.openProject twinsFile).run ⟨.empty, ⟨[], 1⟩⟩ = .error (.duplicateNode id) w' := by
  have hpasses : reads twinsFile (passes ["a", "a"] []) = true := by decide +kernel
  obtain ⟨p, hread, hpasses⟩ := exists_of_reads hpasses
  obtain ⟨lines, hids, hwires, hreport⟩ := passes_eq_true hpasses
  have hedges : p.graph.edges = [] := List.map_eq_nil_iff.mp hwires
  cases hopen : (Store.openGraph p.graph).run ⟨.empty, ⟨[], 1⟩⟩ with
  | ok u w' =>
      have hnodup := (Store.openGraph_eq_ok hopen).1.nodup_ids
      rw [hids] at hnodup
      exact absurd hnodup (by decide)
  | error fault w' =>
      rcases Store.openGraph_error hopen with ⟨id, rfl, _⟩ | ⟨_, _, hnot⟩ | ⟨e, he, _⟩
      · exact ⟨p, lines, id, w', hread, hreport, (Store.openProject_eq_error_iff hread).mpr hopen⟩
      · exact absurd (by simp [hedges]) hnot
      · simp [hedges] at he

end NodeGraph
