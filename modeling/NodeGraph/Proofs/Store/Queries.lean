import Mathlib.Order.Bounds.Defs
import NodeGraph.Proofs.Graph.EmissionOrder
import NodeGraph.Proofs.Graph.Reachability
import NodeGraph.Proofs.Store.Integrity

/-!
# Neighbours and dependencies

The neighbours of a node are the other ends of its edges, and its dependencies are the nodes from
which paths lead to it, itself left out: the least set that has its incoming neighbours and with
each node those of that node. Answers stand in the order of the nodes.

In a consistent store all edges run between nodes, so every path is one of nodes of the store, and
an order of emission has all of it in front of its end.
-/

namespace NodeGraph

open Relation

/-! ## Sources of sources -/

/-- Following arcs backwards finds the least set that holds the sources of the arcs into a vertex and
with each vertex the sources of the arcs into that one. -/
theorem Graph.isLeast_transGen (g : Graph) (v : String) :
    IsLeast {S : Set String | (∀ u, g.Arc u v → u ∈ S) ∧ ∀ w ∈ S, ∀ u, g.Arc u w → u ∈ S}
      {u | TransGen g.Arc u v} := by
  constructor
  · exact ⟨fun u harc => .single harc, fun w hpath u harc => .head harc hpath⟩
  · rintro S ⟨hfirst, hclosed⟩ u hpath
    induction hpath using TransGen.head_induction_on with
    | single harc => exact hfirst _ harc
    | head harc _ ih => exact hclosed _ ih _ harc

namespace Store

variable {s : Store} {a b : String} {d : Direction}

/-! ## Neighbours -/

/-- The word that asks for a direction. -/
def Direction.word : Direction → String
  | .outgoing => "outgoing"
  | .incoming => "incoming"
  | .both => "both"

/-- Asked for the neighbours of `b` in a direction, the store answers with a list that has `a`. -/
def Neighbour (s : Store) (d : Direction) (b a : String) : Prop :=
  ∃ found, s.connected (.text b) (.text d.word) = .ok found ∧ a ∈ found

/-- A set has the incoming neighbours of `b` and with each node those of that node. -/
def ClosedAbove (s : Store) (b : String) (S : Set String) : Prop :=
  (∀ a, s.Neighbour .incoming b a → a ∈ S) ∧ ∀ c ∈ S, ∀ a, s.Neighbour .incoming c a → a ∈ S

theorem connected_eq_ok (s : Store) (d : Direction) (b : String) :
    s.connected (.text b) (.text d.word) =
      .ok (if b ∈ s.nodes.keys then
        s.nodes.keys.filter ((neighbours s.graph b d).contains ·) else []) := by
  have hword : Direction.ofValue? (.text d.word) = some d := by cases d <;> rfl
  simp only [connected, hword, Table.contains_iff]
  split <;> rfl

theorem neighbour_iff : s.Neighbour d b a ↔
    b ∈ s.nodes.keys ∧ a ∈ s.nodes.keys ∧ a ∈ neighbours s.graph b d := by
  unfold Neighbour
  simp only [connected_eq_ok, Except.ok.injEq, exists_eq_left']
  split
  · simp [*]
  · simp [*]

/-- Neighbours come in the order of the nodes, each once. -/
theorem exists_connected (hs : s.Consistent) (d : Direction) (b : String) :
    ∃ found, s.connected (.text b) (.text d.word) = .ok found ∧ found.Sublist s.graph.ids := by
  refine ⟨_, connected_eq_ok s d b, ?_⟩
  rw [hs.ids_eq]
  split
  · exact List.filter_sublist
  · exact List.nil_sublist _

namespace Consistent

theorem arc_mem (hs : s.Consistent) (harc : s.graph.Arc a b) :
    a ∈ s.nodes.keys ∧ b ∈ s.nodes.keys := by
  obtain ⟨e, he, rfl, rfl⟩ := harc
  rw [← hs.ids_eq]
  exact hs.ends_mem he

theorem path_mem (hs : s.Consistent) (hpath : TransGen s.graph.Arc a b) :
    a ∈ s.nodes.keys ∧ b ∈ s.nodes.keys := by
  obtain ⟨_, hfirst, _⟩ := TransGen.head'_iff.mp hpath
  obtain ⟨_, _, hlast⟩ := TransGen.tail'_iff.mp hpath
  exact ⟨(hs.arc_mem hfirst).1, (hs.arc_mem hlast).2⟩

/-! ## Neighbours in a consistent store -/

theorem neighbour_incoming_iff (hs : s.Consistent) :
    s.Neighbour .incoming b a ↔ s.graph.Arc a b := by
  rw [neighbour_iff, neighbours, Graph.mem_predecessors_iff_arc]
  exact ⟨fun h => h.2.2, fun harc => ⟨(hs.arc_mem harc).2, (hs.arc_mem harc).1, harc⟩⟩

theorem neighbour_outgoing_iff (hs : s.Consistent) :
    s.Neighbour .outgoing b a ↔ s.graph.Arc b a := by
  rw [neighbour_iff, neighbours, Graph.mem_successors_iff_arc]
  exact ⟨fun h => h.2.2, fun harc => ⟨(hs.arc_mem harc).1, (hs.arc_mem harc).2, harc⟩⟩

theorem neighbour_both_iff (hs : s.Consistent) :
    s.Neighbour .both b a ↔ s.graph.Arc a b ∨ s.graph.Arc b a := by
  rw [neighbour_iff, neighbours, List.mem_append, Graph.mem_successors_iff_arc,
    Graph.mem_predecessors_iff_arc]
  constructor
  · rintro ⟨_, _, hout | hin⟩
    · exact .inr hout
    · exact .inl hin
  · rintro (hin | hout)
    · exact ⟨(hs.arc_mem hin).2, (hs.arc_mem hin).1, .inr hin⟩
    · exact ⟨(hs.arc_mem hout).1, (hs.arc_mem hout).2, .inl hout⟩

/-! ## Dependencies in a consistent store -/

theorem dependencies_sublist (hs : s.Consistent) (b : String) :
    (s.dependencies (.text b)).Sublist s.graph.ids := by
  rw [hs.ids_eq]
  exact List.filter_sublist

theorem mem_dependencies_iff (hs : s.Consistent) :
    a ∈ s.dependencies (.text b) ↔ TransGen s.graph.Arc a b ∧ a ≠ b := by
  simp only [dependencies, List.mem_filter, Bool.and_eq_true, decide_eq_true_eq,
    List.contains_iff_mem, Graph.mem_ancestors]
  constructor
  · rintro ⟨_, hne, hpath⟩
    exact ⟨(reflTransGen_iff_eq_or_transGen.mp hpath).resolve_left hne.symm, hne⟩
  · rintro ⟨hpath, hne⟩
    exact ⟨(hs.path_mem hpath).1, hne, hpath.to_reflTransGen⟩

theorem closedAbove_iff (hs : s.Consistent) {S : Set String} :
    s.ClosedAbove b S ↔
      (∀ a, s.graph.Arc a b → a ∈ S) ∧ ∀ c ∈ S, ∀ a, s.graph.Arc a c → a ∈ S := by
  simp only [ClosedAbove, hs.neighbour_incoming_iff]

/-- Dependencies are emitted earlier. -/
theorem dependency_before (hs : s.Consistent) {order : List Node}
    (horder : s.graph.emissionOrder = .ok order) (ha : a ∈ s.dependencies (.text b)) :
    ∃ pre n post, order = pre ++ n :: post ∧ n.id = b ∧ a ∈ pre.map (·.id) := by
  obtain ⟨hpath, _⟩ := hs.mem_dependencies_iff.mp ha
  have hb : b ∈ s.graph.ids := hs.ids_eq ▸ (hs.path_mem hpath).2
  obtain ⟨n, hn, rfl⟩ := Graph.mem_ids.mp hb
  have hmem := (Graph.emissionOrder_perm hs.nodup_ids horder).mem_iff.mpr hn
  obtain ⟨pre, post, rfl⟩ := List.append_of_mem hmem
  exact ⟨pre, n, post, rfl, rfl, List.mem_map.mpr
    (Graph.emissionOrder_path_before hs.nodup_ids (fun e he => (hs.ends_mem he).1) horder hpath)⟩

end Consistent

end Store

open Store

/-- In every store that a run leads to, the dependencies of `b` are the other nodes from which paths
lead to `b`, each once and in the order of the nodes, and thus the least set that has the incoming
neighbours of `b` and with each node those of that node, without `b` itself. The neighbours in a
direction are always found, in the order of the nodes: the incoming ones are those of which `b` is
an outgoing neighbour, and both together are the union. An order of emission has all dependencies of
`b` in front of `b`. -/
theorem Workspace.queries_after (ids : Ids) (calls : List Call) (b : String) :
    let s := ((start ids).after calls).store
    (s.dependencies (.text b)).Sublist s.graph.ids ∧ (s.dependencies (.text b)).Nodup ∧
      (∀ a, a ∈ s.dependencies (.text b) ↔ TransGen s.graph.Arc a b ∧ a ≠ b) ∧
      (∃ S, IsLeast {S : Set String | s.ClosedAbove b S} S ∧
        ∀ a, a ∈ s.dependencies (.text b) ↔ a ∈ S ∧ a ≠ b) ∧
      (∀ d : Direction, ∃ found, s.connected (.text b) (.text d.word) = .ok found ∧
        found.Sublist s.graph.ids) ∧
      (∀ a, s.Neighbour .incoming b a ↔ s.graph.Arc a b) ∧
      (∀ a, s.Neighbour .incoming b a ↔ s.Neighbour .outgoing a b) ∧
      (∀ a, s.Neighbour .both b a ↔ s.Neighbour .incoming b a ∨ s.Neighbour .outgoing b a) ∧
      ∀ order, s.graph.emissionOrder = .ok order → ∀ a ∈ s.dependencies (.text b),
        ∃ pre n post, order = pre ++ n :: post ∧ n.id = b ∧ a ∈ pre.map (·.id) := by
  intro s
  have hs : s.Consistent := consistent_after .empty calls
  refine ⟨hs.dependencies_sublist b, hs.nodup_ids.sublist (hs.dependencies_sublist b),
    fun a => hs.mem_dependencies_iff, ⟨{a | TransGen s.graph.Arc a b}, ?_,
      fun a => hs.mem_dependencies_iff⟩, fun d => exists_connected hs d b,
    fun a => hs.neighbour_incoming_iff, fun a => ?_, fun a => ?_,
    fun order horder a ha => hs.dependency_before horder ha⟩
  · simp only [hs.closedAbove_iff]
    exact s.graph.isLeast_transGen b
  · rw [hs.neighbour_incoming_iff, hs.neighbour_outgoing_iff]
  · rw [hs.neighbour_both_iff, hs.neighbour_incoming_iff, hs.neighbour_outgoing_iff]

end NodeGraph
