import NodeGraph.Graph.Cycle
import NodeGraph.Proofs.Graph.Rearrangement

/-!
# Graphs of the same shape

Paths, components, cycles and the order of the vertices depend on the ids of the nodes and on the
edges only, not on what the nodes hold.
-/

namespace NodeGraph.Graph

/-- The graphs have nodes with the same ids in the same order, and the same edges. -/
structure SameShape (g g' : Graph) : Prop where
  ids : g'.ids = g.ids
  edges : g'.edges = g.edges

namespace SameShape

variable {g g' : Graph} (h : g.SameShape g')

include h

theorem vertices_eq : g'.vertices = g.vertices := by
  unfold vertices
  rw [h.ids, h.edges]

theorem successors_eq : g'.successors = g.successors := by
  funext v
  unfold successors outgoing
  rw [h.edges]

theorem predecessors_eq : g'.predecessors = g.predecessors := by
  funext v
  unfold predecessors incoming
  rw [h.edges]

theorem component_eq : g'.component = g.component := by
  funext v
  unfold component descendants ancestors
  rw [h.successors_eq, h.predecessors_eq, h.vertices_eq]

theorem components_eq : g'.components = g.components := by
  unfold components isFirst
  rw [h.component_eq, h.vertices_eq]

theorem hasCycle_eq : g'.hasCycle = g.hasCycle := by
  funext component
  unfold hasCycle
  rw [h.successors_eq]

theorem cycleFrom_eq : g'.cycleFrom = g.cycleFrom := by
  funext component start
  unfold cycleFrom
  rw [h.successors_eq]

theorem sortedVertices_eq : g'.sortedVertices = g.sortedVertices := by
  have hrank : g'.rank = g.rank := by
    funext v
    unfold rank
    rw [h.ids]
  have hready : g'.isReady = g.isReady := by
    funext done v
    unfold isReady
    rw [h.predecessors_eq]
  unfold sortedVertices
  rw [h.vertices_eq, hrank]
  exact emit_congr hready _ _ _

end SameShape

end NodeGraph.Graph
