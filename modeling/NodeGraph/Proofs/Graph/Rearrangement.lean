import NodeGraph.Proofs.Graph.EmissionOrder

/-!
# Rearranged graphs

A graph is rearranged by moving its nodes about on the canvas, listing its edges in another order
and giving them other ids. The nodes stay in their order. The arcs are then the same, and so is the
order of emission: among the vertices that are ready the one that stands first in the graph comes
next, and no two nodes stand at the same place.
-/

namespace NodeGraph

/-- The node without its place. -/
def Node.unplaced (n : Node) : Node := { n with position := .origin }

/-- The edge without its id. -/
def Edge.unnamed (e : Edge) : Edge := { e with id := "" }

namespace Node

variable {n n' : Node}

theorem unplaced_eq_iff :
    n'.unplaced = n.unplaced ↔ n'.id = n.id ∧ n'.type = n.type ∧ n'.fields = n.fields := by
  obtain ⟨id, type, position, fields⟩ := n
  obtain ⟨id', type', position', fields'⟩ := n'
  simp [unplaced]

/-- A node differs from another one in its place only. -/
theorem eq_of_unplaced_eq (h : n'.unplaced = n.unplaced) :
    n' = { n with position := n'.position } := by
  obtain ⟨hid, htype, hfields⟩ := unplaced_eq_iff.mp h
  obtain ⟨id', type', position', fields'⟩ := n'
  subst hid htype hfields
  rfl

end Node

theorem Edge.unnamed_eq_iff {e e' : Edge} :
    e'.unnamed = e.unnamed ↔ e'.source = e.source ∧ e'.sourceOutput = e.sourceOutput ∧
      e'.target = e.target ∧ e'.targetInput = e.targetInput := by
  obtain ⟨id, source, output, target, input⟩ := e
  obtain ⟨id', source', output', target', input'⟩ := e'
  simp [unnamed]

namespace Graph

/-- The second graph has the nodes of the first one in their order, at any places, and its edges in
any order, under any ids. -/
structure Rearranged (g g' : Graph) : Prop where
  nodes : g'.nodes.map Node.unplaced = g.nodes.map Node.unplaced
  edges : (g'.edges.map Edge.unnamed).Perm (g.edges.map Edge.unnamed)

variable {g g' : Graph}

namespace Rearranged

theorem symm (h : g.Rearranged g') : g'.Rearranged g := ⟨h.nodes.symm, h.edges.symm⟩

/-! ## Nodes and edges -/

theorem exists_node (h : g.Rearranged g') {n : Node} (hn : n ∈ g.nodes) :
    ∃ n' ∈ g'.nodes, n'.unplaced = n.unplaced := by
  have hmem : n.unplaced ∈ g'.nodes.map Node.unplaced := by
    rw [h.nodes]
    exact List.mem_map_of_mem hn
  exact List.mem_map.mp hmem

theorem exists_edge (h : g.Rearranged g') {e : Edge} (he : e ∈ g.edges) :
    ∃ e' ∈ g'.edges, e'.unnamed = e.unnamed :=
  List.mem_map.mp (h.edges.mem_iff.mpr (List.mem_map_of_mem he))

theorem ids_eq (h : g.Rearranged g') : g'.ids = g.ids := by
  have hids : ∀ g : Graph, g.ids = (g.nodes.map Node.unplaced).map (·.id) := by
    intro g
    rw [List.map_map]
    rfl
  rw [hids, hids, h.nodes]

theorem map_node? (h : g.Rearranged g') (v : String) :
    (g'.node? v).map Node.unplaced = (g.node? v).map Node.unplaced := by
  have hfind : ∀ g : Graph, (g.node? v).map Node.unplaced =
      (g.nodes.map Node.unplaced).reverse.find? (·.id = v) := by
    intro g
    rw [← List.map_reverse, List.find?_map]
    rfl
  rw [hfind, hfind, h.nodes]

theorem ends (h : g.Rearranged g') (hends : ∀ e ∈ g.edges, e.source ∈ g.ids ∧ e.target ∈ g.ids) :
    ∀ e ∈ g'.edges, e.source ∈ g'.ids ∧ e.target ∈ g'.ids := by
  intro e' he'
  obtain ⟨e, he, hsame⟩ := h.symm.exists_edge he'
  obtain ⟨hsource, _, htarget, _⟩ := Edge.unnamed_eq_iff.mp hsame
  rw [h.ids_eq, ← hsource, ← htarget]
  exact hends e he

/-! ## Arcs -/

theorem arc (h : g.Rearranged g') {u w : String} (harc : g.Arc u w) : g'.Arc u w := by
  obtain ⟨e, he, rfl, rfl⟩ := harc
  obtain ⟨e', he', hsame⟩ := h.exists_edge he
  obtain ⟨hsource, _, htarget, _⟩ := Edge.unnamed_eq_iff.mp hsame
  exact ⟨e', he', hsource, htarget⟩

theorem arc_eq (h : g.Rearranged g') : g'.Arc = g.Arc := by
  funext u w
  exact propext ⟨h.symm.arc, h.arc⟩

theorem acyclic (h : g.Rearranged g') (hacyclic : g.Acyclic) : g'.Acyclic := by
  unfold Acyclic
  rw [h.arc_eq]
  exact hacyclic

end Rearranged

/-! ## The order of emission -/

/-- What is ready next is all that an emission depends on. -/
theorem emit_congr (h : g'.isReady = g.isReady) (fuel : Nat) (done waiting : List String) :
    g'.emit fuel done waiting = g.emit fuel done waiting := by
  induction fuel generalizing done waiting with
  | zero => cases waiting <;> rfl
  | succ fuel ih =>
      cases waiting with
      | nil => rfl
      | cons v rest =>
          unfold emit
          rw [h]
          split
          · rfl
          · rw [ih]

namespace Rearranged

theorem rank_eq (h : g.Rearranged g') : g'.rank = g.rank := by
  funext v
  unfold rank
  rw [h.ids_eq]

theorem isReady_eq (h : g.Rearranged g') : g'.isReady = g.isReady := by
  funext done v
  rw [Bool.eq_iff_iff, isReady_iff, isReady_iff, h.arc_eq]

theorem sortedVertices_eq (h : g.Rearranged g') (hdistinct : g.ids.Nodup)
    (hends : ∀ e ∈ g.edges, e.source ∈ g.ids ∧ e.target ∈ g.ids) :
    g'.sortedVertices = g.sortedVertices := by
  have hvertices : g'.vertices = g.vertices := by
    rw [vertices_eq_ids hdistinct hends,
      vertices_eq_ids (h.ids_eq ▸ hdistinct) (h.ends hends), h.ids_eq]
  unfold sortedVertices
  rw [hvertices, h.rank_eq]
  exact emit_congr h.isReady_eq _ _ _

/-- The nodes are emitted in the same order, each at its own place. -/
theorem emissionOrder (h : g.Rearranged g') (hdistinct : g.ids.Nodup)
    (hends : ∀ e ∈ g.edges, e.source ∈ g.ids ∧ e.target ∈ g.ids) {order : List Node}
    (horder : g.emissionOrder = .ok order) :
    ∃ order', g'.emissionOrder = .ok order' ∧
      order'.map Node.unplaced = order.map Node.unplaced := by
  obtain ⟨vertices, hsorted, rfl⟩ := emissionOrder_eq_ok horder
  refine ⟨vertices.filterMap g'.node?, ?_, ?_⟩
  · unfold Graph.emissionOrder
    rw [h.sortedVertices_eq hdistinct hends, hsorted]
  · rw [List.map_filterMap, List.map_filterMap]
    simp only [h.map_node?]

end Rearranged

end Graph

end NodeGraph
