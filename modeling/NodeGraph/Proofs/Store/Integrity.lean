import NodeGraph.Proofs.Store.Failure
import NodeGraph.Proofs.Store.Importing

/-!
# Integrity

What holds of the store after every run: nodes and edges are stored under their own ids, and edges
end at nodes that are there. Each edit that writes puts one node or edge, takes one out, or replaces
the whole graph, and each of these keeps the store consistent.
-/

namespace NodeGraph

namespace Store

/-- Nodes and edges are stored under their own ids, and edges end at nodes of the store. -/
structure Consistent (s : Store) : Prop where
  nodes_keyed : s.nodes.Keyed (·.id)
  edges_keyed : s.edges.Keyed (·.id)
  ends : ∀ {key e}, s.edges.get? key = some e → e.source ∈ s.nodes.keys ∧ e.target ∈ s.nodes.keys

namespace Consistent

variable {s : Store}

/-! ## What consistency says about the graph -/

theorem ids_eq (h : s.Consistent) : s.graph.ids = s.nodes.keys := h.nodes_keyed.map_values

theorem edge_ids_eq (h : s.Consistent) : s.graph.edges.map (·.id) = s.edges.keys :=
  h.edges_keyed.map_values

theorem nodup_ids (h : s.Consistent) : s.graph.ids.Nodup := by
  rw [h.ids_eq]
  exact s.nodes.keys_nodup

theorem nodup_edge_ids (h : s.Consistent) : (s.graph.edges.map (·.id)).Nodup := by
  rw [h.edge_ids_eq]
  exact s.edges.keys_nodup

theorem ends_mem (h : s.Consistent) {e : Edge} (he : e ∈ s.graph.edges) :
    e.source ∈ s.graph.ids ∧ e.target ∈ s.graph.ids := by
  obtain ⟨key, hget⟩ := Table.mem_values_iff.mp he
  rw [h.ids_eq]
  exact h.ends hget

/-! ## Single nodes and edges -/

theorem empty : Store.empty.Consistent where
  nodes_keyed := .empty
  edges_keyed := .empty
  ends h := by
    rw [Store.empty, Table.get?_empty] at h
    cases h

/-- More nodes never leave an edge without its ends. -/
theorem putNode (h : s.Consistent) (n : Node) : (s.putNode n).Consistent where
  nodes_keyed := h.nodes_keyed.insert n
  edges_keyed := h.edges_keyed
  ends hget := by
    obtain ⟨hsource, htarget⟩ := h.ends hget
    exact ⟨Table.mem_keys_insert.mpr (.inl hsource), Table.mem_keys_insert.mpr (.inl htarget)⟩

theorem putEdge (h : s.Consistent) {e : Edge} (hsource : e.source ∈ s.nodes.keys)
    (htarget : e.target ∈ s.nodes.keys) : (s.putEdge e).Consistent where
  nodes_keyed := h.nodes_keyed
  edges_keyed := h.edges_keyed.insert e
  ends hget := by
    rw [Store.putEdge, Table.get?_insert] at hget
    split at hget
    · obtain rfl := Option.some.inj hget
      exact ⟨hsource, htarget⟩
    · exact h.ends hget

/-- A node goes with all edges that end at it. -/
theorem withoutNode (h : s.Consistent) (key : String) : (s.withoutNode key).Consistent where
  nodes_keyed := h.nodes_keyed.erase key
  edges_keyed := h.edges_keyed.filter _
  ends hget := by
    obtain ⟨hget, hkept⟩ := Table.get?_filter_eq_some_iff.mp hget
    rw [Bool.and_eq_true, decide_eq_true_iff, decide_eq_true_iff] at hkept
    obtain ⟨hsource, htarget⟩ := h.ends hget
    exact ⟨Table.mem_keys_erase.mpr ⟨hsource, hkept.1⟩,
      Table.mem_keys_erase.mpr ⟨htarget, hkept.2⟩⟩

theorem withoutEdge (h : s.Consistent) (key : String) :
    { s with edges := s.edges.erase key }.Consistent where
  nodes_keyed := h.nodes_keyed
  edges_keyed := h.edges_keyed.erase key
  ends hget := h.ends (Table.get?_erase_eq_some_iff.mp hget).1

/-- Only the nodes and the edges of a store matter. -/
theorem congr (h : s.Consistent) {s' : Store} (hnodes : s'.nodes = s.nodes)
    (hedges : s'.edges = s.edges) : s'.Consistent where
  nodes_keyed := hnodes ▸ h.nodes_keyed
  edges_keyed := hedges ▸ h.edges_keyed
  ends hget := by
    rw [hedges] at hget
    rw [hnodes]
    exact h.ends hget

end Consistent

/-! ## Whole graphs -/

theorem consistent_ofGraph {g : Graph} (h : g.Sound) : (ofGraph g h).Consistent where
  nodes_keyed := .under h.nodup_ids
  edges_keyed := .under h.nodup_edge_ids
  ends := by
    intro key e hget
    have he : e ∈ (ofGraph g h).graph.edges := Table.mem_values_iff.mpr ⟨key, hget⟩
    rw [graph_ofGraph] at he
    rw [keys_ofGraph]
    exact h.ends e he

theorem consistent_of_importGraph {w w' : Workspace} {nodes : List (Checked Node)}
    {edges : List (Checked Edge)} {u : Unit}
    (h : (importGraph nodes edges).run w = .ok u w') : w'.store.Consistent := by
  obtain ⟨g, hsound, _, _, rfl⟩ := importGraph_eq_ok_iff.mp h
  exact consistent_ofGraph (Graph.sound_taken_iff.mpr hsound)

end Store

open Edit Store

/-! ## One call -/

variable {r : Registry} {settings : Settings} {w w' : Workspace} {operation : Operation}
  {allocated : Option String}

/-- What an operation that succeeds does to a consistent store. The nodes and edges that are put come
with their ends from the store, and a whole graph is checked before it is taken over. -/
theorem Operation.consistent_of_ok (hs : w.store.Consistent)
    (h : (operation.run r settings).run w = .ok allocated w') : w'.store.Consistent := by
  cases operation with
  | addNode type position =>
      obtain ⟨n, hrun, _⟩ := run_bind_pure_eq_ok_iff.mp h
      obtain ⟨name, d, p, _, _, _, _, rfl⟩ := addNode_eq_ok hrun
      exact hs.putNode _
  | updateNode id fields =>
      obtain ⟨result, hrun, _⟩ := run_bind_pure_eq_ok_iff.mp h
      rcases updateNode_eq_ok hrun with ⟨_, _, rfl⟩ | ⟨key, n, _, _, _, _, rfl⟩
      · exact hs
      · exact hs.putNode _
  | moveNode id position =>
      obtain ⟨result, hrun, _⟩ := run_bind_pure_eq_ok_iff.mp h
      rcases moveNode_eq_ok hrun with ⟨_, _, rfl⟩ | ⟨key, n, p, _, _, _, _, rfl⟩
      · exact hs
      · exact hs.putNode _
  | moveNodeTo id position =>
      obtain ⟨result, hrun, _⟩ := run_bind_pure_eq_ok_iff.mp h
      rcases moveNodeTo_eq_ok hrun with ⟨_, _, rfl⟩ | ⟨key, n, _, _, _, rfl⟩
      · exact hs
      · exact hs.putNode _
  | duplicateNode id =>
      obtain ⟨result, hrun, _⟩ := run_bind_pure_eq_ok_iff.mp h
      rcases duplicateNode_eq_ok hrun with ⟨_, _, rfl⟩ | ⟨key, n, copy, _, _, _, _, rfl⟩
      · exact hs
      · exact hs.putNode copy
  | deleteNode id =>
      obtain ⟨found, hrun, _⟩ := run_bind_pure_eq_ok_iff.mp h
      rcases deleteNode_eq_ok hrun with ⟨_, _, rfl⟩ | ⟨key, _, _, _, rfl⟩
      · exact hs
      · exact hs.withoutNode key
  | node id =>
      rw [(reads_query _ _).ok h]
      exact hs
  | addEdge source output target input id =>
      obtain ⟨e, hrun, _⟩ := run_bind_pure_eq_ok_iff.mp h
      obtain ⟨hconnects, _, ⟨_, _, rfl⟩ | ⟨_, _, rfl⟩⟩ := addEdge_eq_ok hrun
      · exact hs.putEdge hconnects.source_mem hconnects.target_mem
      · exact hs.putEdge hconnects.source_mem hconnects.target_mem
  | updateEdge id changes =>
      obtain ⟨result, hrun, _⟩ := run_bind_pure_eq_ok_iff.mp h
      rcases updateEdge_eq_ok hrun with
        ⟨_, _, rfl⟩ | ⟨key, e, source, target, _, _, _, hsource, _, htarget, _, rfl⟩
      · exact hs
      · exact hs.putEdge hsource htarget
  | deleteEdge id =>
      obtain ⟨found, hrun, _⟩ := run_bind_pure_eq_ok_iff.mp h
      rcases deleteEdge_eq_ok hrun with ⟨_, _, rfl⟩ | ⟨key, _, _, _, rfl⟩
      · exact hs
      · exact hs.withoutEdge key
  | edge id =>
      rw [(reads_query _ _).ok h]
      exact hs
  | select id =>
      cases h
      exact hs.congr rfl rfl
  | toggleHighlight id =>
      cases h
      exact hs.congr rfl rfl
  | clear =>
      cases h
      exact .empty
  | importGraph nodes edges =>
      obtain ⟨u, hrun, _⟩ := run_bind_pure_eq_ok_iff.mp h
      exact consistent_of_importGraph hrun
  | importValues nodes edges =>
      obtain ⟨u, hrun, _⟩ := run_bind_pure_eq_ok_iff.mp h
      obtain ⟨_, _, _, _, himport⟩ := importValues_eq_ok hrun
      exact consistent_of_importGraph himport
  | openProject text =>
      obtain ⟨p, hrun, _⟩ := run_bind_pure_eq_ok_iff.mp h
      exact consistent_of_importGraph (openProject_eq_ok hrun).2
  | openFile files file =>
      obtain ⟨p, hrun, _⟩ := run_bind_pure_eq_ok_iff.mp h
      obtain ⟨text, _, hopen⟩ := run_orFail_bind_eq_ok_iff.mp hrun
      exact consistent_of_importGraph (openProject_eq_ok hopen).2
  | connected id direction =>
      rw [(reads_query _ _).ok h]
      exact hs
  | dependencies id =>
      cases h
      exact hs
  | validate =>
      obtain ⟨errors, hrun, _⟩ := run_bind_pure_eq_ok_iff.mp h
      obtain ⟨_, rfl⟩ := validate_eq_ok hrun
      exact hs.congr rfl rfl
  | generate =>
      obtain ⟨code, hrun, _⟩ := run_bind_pure_eq_ok_iff.mp h
      rw [(reads_generate r settings).ok hrun]
      exact hs

/-- Only adding and copying allocate ids, and they hand out what the source of ids gives. -/
theorem Operation.allocated_eq {id : String}
    (h : (operation.run r settings).run w = .ok (some id) w') :
    ∃ kind, id = (w.fresh kind).1 := by
  cases operation with
  | addNode type position =>
      obtain ⟨n, hrun, hid⟩ := run_bind_pure_eq_ok_iff.mp h
      obtain ⟨name, d, p, _, _, _, rfl, _⟩ := addNode_eq_ok hrun
      exact ⟨"node", (Option.some.inj hid).symm⟩
  | duplicateNode source =>
      obtain ⟨result, hrun, hid⟩ := run_bind_pure_eq_ok_iff.mp h
      rcases duplicateNode_eq_ok hrun with ⟨_, rfl, _⟩ | ⟨key, n, copy, _, _, rfl, rfl, _⟩
      · cases hid
      · exact ⟨"node", (Option.some.inj hid).symm⟩
  | addEdge source output target input given =>
      obtain ⟨e, hrun, hid⟩ := run_bind_pure_eq_ok_iff.mp h
      obtain ⟨_, _, ⟨htruthy, _, _⟩ | ⟨htruthy, hfresh, _⟩⟩ := addEdge_eq_ok hrun
      · simp [htruthy] at hid
      · simp only [htruthy, Bool.false_eq_true, if_false, Option.some.injEq] at hid
        exact ⟨"edge", hid.symm.trans hfresh⟩
  | node source | edge source | connected source direction =>
      obtain ⟨s, _, _, h⟩ := run_bind_eq_ok_iff.mp h
      obtain ⟨_, _, hid⟩ := run_bind_pure_eq_ok_iff.mp h
      cases hid
  | dependencies source => cases h
  | _ =>
      obtain ⟨_, _, hid⟩ := run_bind_pure_eq_ok_iff.mp h
      cases hid

/-! ## Whole runs -/

namespace Workspace

/-- A call that fails leaves the store it found. -/
theorem consistent_next (hs : w.store.Consistent) (c : Call) : (w.next c).store.Consistent := by
  unfold next
  cases hrun : c.run w with
  | ok allocated w' => exact Operation.consistent_of_ok hs hrun
  | error f w' =>
      rw [(c.operation.allOrNothing c.registry c.settings).error hrun]
      exact hs

theorem consistent_after (hs : w.store.Consistent) (calls : List Call) :
    (w.after calls).store.Consistent := by
  induction calls generalizing w with
  | nil => exact hs
  | cons c calls ih => exact ih (consistent_next hs c)

/-- After every run from an empty store, whatever its calls and the texts for new ids are: nodes and
edges are stored under their own ids, no two nodes and no two edges have the same id, edges end at
nodes of the store, and an id that is allocated next is that of no node and of no edge. -/
theorem intact_after (ids : Ids) (calls : List Call) :
    let w := (start ids).after calls
    (∀ entry ∈ w.store.nodes.entries, entry.2.id = entry.1) ∧
      (∀ entry ∈ w.store.edges.entries, entry.2.id = entry.1) ∧
      w.store.graph.ids.Nodup ∧
      (w.store.graph.edges.map (·.id)).Nodup ∧
      (∀ e ∈ w.store.graph.edges,
        e.source ∈ w.store.graph.ids ∧ e.target ∈ w.store.graph.ids) ∧
      (∀ kind id w', (newId kind).run w = .ok id w' →
        id ∉ w.store.graph.ids ∧ id ∉ w.store.graph.edges.map (·.id)) ∧
      ∀ c id w', Call.run c w = .ok (some id) w' →
        id ∉ w.store.graph.ids ∧ id ∉ w.store.graph.edges.map (·.id) := by
  intro w
  have hs : w.store.Consistent := consistent_after .empty calls
  have hfresh : ∀ kind, (w.fresh kind).1 ∉ w.store.graph.ids ∧
      (w.fresh kind).1 ∉ w.store.graph.edges.map (·.id) := by
    intro kind
    rw [hs.ids_eq, hs.edge_ids_eq]
    exact ⟨w.fresh_notMem_nodes kind, w.fresh_notMem_edges kind⟩
  refine ⟨?_, ?_, hs.nodup_ids, hs.nodup_edge_ids, fun e he => hs.ends_mem he, ?_, ?_⟩
  · rintro ⟨key, n⟩ hmem
    exact hs.nodes_keyed key n (Table.mem_entries_iff.mp hmem)
  · rintro ⟨key, e⟩ hmem
    exact hs.edges_keyed key e (Table.mem_entries_iff.mp hmem)
  · intro kind id w' hrun
    rw [run_newId] at hrun
    cases hrun
    exact hfresh kind
  · intro c id w' hrun
    obtain ⟨kind, rfl⟩ := Operation.allocated_eq hrun
    exact hfresh kind

end Workspace

end NodeGraph
