import Mathlib.Data.List.Nodup
import Mathlib.Logic.Relation
import NodeGraph.Graph.Digraph

/-!
# Nodes and arcs

Looking up the nodes of a graph whose ids are distinct, and the arcs of a graph as a relation on its
vertices, which the order of emission and the cycles are described by.
-/

namespace NodeGraph.Graph

open Relation

/-! ## Lists without repetition -/

theorem nodup_eraseDups : ∀ xs : List String, xs.eraseDups.Nodup
  | [] => by simp
  | x :: xs => by
      rw [List.eraseDups_cons]
      refine List.nodup_cons.mpr ⟨?_, nodup_eraseDups _⟩
      rw [List.mem_eraseDups, List.mem_filter]
      rintro ⟨_, hx⟩
      simp at hx
termination_by xs => xs.length
decreasing_by
  exact Nat.lt_succ_of_le (List.length_filter_le _ _)

theorem eraseDups_eq_self {xs : List String} (h : xs.Nodup) : xs.eraseDups = xs := by
  induction xs with
  | nil => rfl
  | cons x xs ih =>
      obtain ⟨hx, hxs⟩ := List.nodup_cons.mp h
      have hfilter : xs.filter (fun y => !y == x) = xs := by
        apply List.filter_eq_self.mpr
        intro y hy
        simp only [Bool.not_eq_true', beq_eq_false_iff_ne]
        rintro rfl
        exact hx hy
      rw [List.eraseDups_cons, hfilter, ih hxs]

theorem find?_eraseDups (p : String → Bool) : ∀ xs : List String, xs.eraseDups.find? p = xs.find? p
  | [] => rfl
  | x :: xs => by
      rw [List.eraseDups_cons, List.find?_cons, List.find?_cons]
      cases hx : p x with
      | true => rfl
      | false =>
          rw [find?_eraseDups p (xs.filter fun y => !y == x), List.find?_filter]
          -- the copies of `x` that are left out would not have been found either
          have hsame : (fun y => decide ((!y == x) = true ∧ p y = true)) = p := by
            funext y
            by_cases hy : y = x
            · simp [hy, hx]
            · simp [hy]
          rw [hsame]
termination_by xs => xs.length
decreasing_by
  exact Nat.lt_succ_of_le (List.length_filter_le _ _)

/-! ## Nodes -/

variable {g : Graph} {v w : String} {n : Node}

theorem mem_ids : v ∈ g.ids ↔ ∃ n ∈ g.nodes, n.id = v := by
  simp [ids]

theorem mem_ids_of_mem (h : n ∈ g.nodes) : n.id ∈ g.ids := mem_ids.mpr ⟨n, h, rfl⟩

theorem mem_of_node? (h : g.node? v = some n) : n ∈ g.nodes ∧ n.id = v := by
  refine ⟨List.mem_reverse.mp (List.mem_of_find?_eq_some h), ?_⟩
  simpa using List.find?_some h

theorem node?_isSome : (g.node? v).isSome ↔ v ∈ g.ids := by
  simp [node?, ids]

/-- Nodes with the same id are one node when the ids are distinct. -/
theorem eq_of_id_eq (hdistinct : g.ids.Nodup) {m : Node} (hm : m ∈ g.nodes) (hn : n ∈ g.nodes)
    (heq : m.id = n.id) : m = n :=
  List.inj_on_of_nodup_map hdistinct hm hn heq

theorem node?_of_mem (hdistinct : g.ids.Nodup) (hn : n ∈ g.nodes) : g.node? n.id = some n := by
  obtain ⟨m, hm⟩ := Option.isSome_iff_exists.mp (node?_isSome.mpr (mem_ids_of_mem hn))
  obtain ⟨hmem, hid⟩ := mem_of_node? hm
  rw [hm, eq_of_id_eq hdistinct hmem hn hid]

/-! ## Arcs -/

/-- Some edge leads from `v` to `w`. -/
def Arc (g : Graph) (v w : String) : Prop :=
  ∃ e ∈ g.edges, e.source = v ∧ e.target = w

/-- No path of at least one arc leads back to its start. -/
def Acyclic (g : Graph) : Prop :=
  ∀ v, ¬ TransGen g.Arc v v

theorem mem_successors_iff_arc : w ∈ g.successors v ↔ g.Arc v w := mem_successors

theorem mem_predecessors_iff_arc : w ∈ g.predecessors v ↔ g.Arc w v := by
  rw [mem_predecessors]
  constructor
  · rintro ⟨e, he, ht, hs⟩
    exact ⟨e, he, hs, ht⟩
  · rintro ⟨e, he, hs, ht⟩
    exact ⟨e, he, ht, hs⟩

/-! ## Vertices -/

theorem mem_vertices :
    v ∈ g.vertices ↔ v ∈ g.ids ∨ ∃ e ∈ g.edges, v = e.source ∨ v = e.target := by
  simp [vertices, List.mem_eraseDups]

theorem nodup_vertices (g : Graph) : g.vertices.Nodup := nodup_eraseDups _

theorem Arc.source_mem (h : g.Arc v w) : v ∈ g.vertices := by
  obtain ⟨e, he, rfl, _⟩ := h
  exact mem_vertices.mpr (.inr ⟨e, he, .inl rfl⟩)

theorem Arc.target_mem (h : g.Arc v w) : w ∈ g.vertices := by
  obtain ⟨e, he, _, rfl⟩ := h
  exact mem_vertices.mpr (.inr ⟨e, he, .inr rfl⟩)

/-- Edges between nodes add no vertices. -/
theorem vertices_eq_ids (hdistinct : g.ids.Nodup)
    (hends : ∀ e ∈ g.edges, e.source ∈ g.ids ∧ e.target ∈ g.ids) : g.vertices = g.ids := by
  have hnone : (g.edges.flatMap fun e => [e.source, e.target]).removeAll g.ids = [] := by
    apply List.filter_eq_nil_iff.mpr
    intro v hv
    obtain ⟨e, he, hend⟩ := List.mem_flatMap.mp hv
    obtain ⟨hsource, htarget⟩ := hends e he
    rcases List.mem_pair.mp hend with rfl | rfl
    · simp [hsource]
    · simp [htarget]
  rw [vertices, List.eraseDups_append, hnone, eraseDups_eq_self hdistinct]
  exact List.append_nil _

end NodeGraph.Graph
