import Mathlib.Data.Fintype.Card
import Mathlib.Data.Set.Finite.List
import NodeGraph.Graph.Order
import NodeGraph.Proofs.Graph.Basic

/-!
# The order of emission

An order is found for every graph without a cycle. It has all nodes of the graph, and where an edge
leads from one node to another the first one comes before the second.

The emission is followed one vertex at a time: what is emitted and what waits make up the vertices,
and a vertex is emitted only when all its predecessors are.
-/

namespace NodeGraph.Graph

open Relation

variable {g : Graph} {v w : String} {fuel : Nat} {done waiting order : List String}

theorem isReady_iff : g.isReady done v = true ↔ ∀ u, g.Arc u v → u ∈ done := by
  simp [isReady, mem_predecessors_iff_arc]

/-! ## One step of the emission -/

/-- What a finished emission did first: nothing was waiting, or the first ready vertex was taken. -/
theorem emit_cases (h : g.emit fuel done waiting = some order) :
    (waiting = [] ∧ order = []) ∨
    ∃ fuel' v rest, waiting.find? (g.isReady done) = some v ∧ order = v :: rest ∧
      g.emit fuel' (v :: done) (waiting.erase v) = some rest := by
  cases waiting with
  | nil =>
      rw [emit.eq_1] at h
      exact .inl ⟨rfl, (Option.some.inj h).symm⟩
  | cons x xs =>
      cases fuel with
      | zero => cases h
      | succ fuel =>
          simp only [emit] at h
          split at h
          · cases h
          · rename_i v hfind
            obtain ⟨rest, hrest, rfl⟩ := Option.map_eq_some_iff.mp h
            exact .inr ⟨fuel, v, rest, hfind, rfl, hrest⟩

/-- What is emitted is what was waiting. -/
theorem emit_perm (h : g.emit fuel done waiting = some order) : order.Perm waiting := by
  induction order generalizing fuel done waiting with
  | nil =>
      rcases emit_cases h with ⟨rfl, _⟩ | ⟨_, _, _, _, heq, _⟩
      · exact .refl _
      · cases heq
  | cons v rest ih =>
      rcases emit_cases h with ⟨_, heq⟩ | ⟨fuel', x, rest', hfind, heq, hrest⟩
      · cases heq
      · obtain ⟨rfl, rfl⟩ := List.cons.inj heq
        have hmem := List.mem_of_find?_eq_some hfind
        exact ((ih hrest).cons _).trans (List.perm_cons_erase hmem).symm

/-- All predecessors of an emitted vertex were done before or are emitted before it. -/
theorem emit_sources_first {pre post : List String}
    (h : g.emit fuel done waiting = some (pre ++ v :: post)) :
    ∀ u, g.Arc u v → u ∈ done ∨ u ∈ pre := by
  induction pre generalizing fuel done waiting with
  | nil =>
      rcases emit_cases h with ⟨_, heq⟩ | ⟨_, x, _, hfind, heq, _⟩
      · cases heq
      · obtain ⟨rfl, rfl⟩ := List.cons.inj heq
        intro u hu
        exact .inl (isReady_iff.mp (List.find?_some hfind) u hu)
  | cons x pre ih =>
      rcases emit_cases h with ⟨_, heq⟩ | ⟨_, y, _, hfind, heq, hrest⟩
      · cases heq
      · obtain ⟨rfl, rfl⟩ := List.cons.inj heq
        intro u hu
        rcases ih hrest u hu with hdone | hpre
        · rcases List.mem_cons.mp hdone with rfl | hdone
          · exact .inr List.mem_cons_self
          · exact .inl hdone
        · exact .inr (List.mem_cons_of_mem _ hpre)

/-! ## The emission does not get stuck -/

/-- Among finitely many vertices without a cycle, one has none of the others before it. -/
theorem exists_first (hacyclic : g.Acyclic) (hne : waiting ≠ []) :
    ∃ v ∈ waiting, ∀ u ∈ waiting, ¬ g.Arc u v := by
  -- restricted to the waiting vertices, being reached from is well founded
  let before (a b : {v // v ∈ waiting}) : Prop := TransGen g.Arc a.1 b.1
  have : IsTrans _ before := ⟨fun _ _ _ hab hbc => TransGen.trans hab hbc⟩
  have : Std.Irrefl before := ⟨fun a ha => hacyclic a.1 ha⟩
  have : Finite {v // v ∈ waiting} := (List.finite_toSet waiting).to_subtype
  obtain ⟨x, hx⟩ := List.exists_mem_of_ne_nil waiting hne
  obtain ⟨v, _, hmin⟩ :=
    (Finite.wellFounded_of_trans_of_irrefl before).has_min Set.univ ⟨⟨x, hx⟩, trivial⟩
  exact ⟨v.1, v.2, fun u hu harc => hmin ⟨u, hu⟩ trivial (.single harc)⟩

theorem exists_ready (hacyclic : g.Acyclic) (hne : waiting ≠ [])
    (hclosed : ∀ v ∈ waiting, ∀ u, g.Arc u v → u ∈ done ∨ u ∈ waiting) :
    ∃ v ∈ waiting, g.isReady done v = true := by
  obtain ⟨v, hv, hfirst⟩ := exists_first hacyclic hne
  refine ⟨v, hv, isReady_iff.mpr ?_⟩
  intro u hu
  exact (hclosed v hv u hu).resolve_right fun hwaiting => hfirst u hwaiting hu

theorem exists_emit (hacyclic : g.Acyclic) (hfuel : waiting.length ≤ fuel)
    (hclosed : ∀ v ∈ waiting, ∀ u, g.Arc u v → u ∈ done ∨ u ∈ waiting) :
    ∃ order, g.emit fuel done waiting = some order := by
  induction fuel generalizing done waiting with
  | zero =>
      rw [List.length_eq_zero_iff.mp (Nat.le_zero.mp hfuel)]
      exact ⟨[], rfl⟩
  | succ fuel ih =>
      by_cases hne : waiting = []
      · exact ⟨[], by simp [hne, emit]⟩
      · obtain ⟨x, hx, hready⟩ := exists_ready hacyclic hne hclosed
        obtain ⟨v, hfind⟩ :=
          Option.isSome_iff_exists.mp (List.find?_isSome.mpr ⟨x, hx, hready⟩)
        have hv := List.mem_of_find?_eq_some hfind
        have hshort : (waiting.erase v).length ≤ fuel := by
          rw [List.length_erase_of_mem hv]
          omega
        -- what leaves the waiting vertices is done from then on
        have hrest : ∀ y ∈ waiting.erase v, ∀ u, g.Arc u y →
            u ∈ v :: done ∨ u ∈ waiting.erase v := by
          intro y hy u hu
          rcases hclosed y (List.mem_of_mem_erase hy) u hu with hdone | hwaiting
          · exact .inl (List.mem_cons_of_mem _ hdone)
          · by_cases heq : u = v
            · exact .inl (heq ▸ List.mem_cons_self)
            · exact .inr ((List.mem_erase_of_ne heq).mpr hwaiting)
        obtain ⟨rest, hemit⟩ := ih hshort hrest
        obtain ⟨y, ys, rfl⟩ := List.exists_cons_of_ne_nil hne
        exact ⟨v :: rest, by simp [emit, hfind, hemit]⟩

/-! ## The vertices in order -/

theorem sortedVertices_perm (h : g.sortedVertices = some order) : order.Perm g.vertices :=
  (emit_perm h).trans (List.mergeSort_perm _ _)

theorem sortedVertices_sources_first {pre post : List String}
    (h : g.sortedVertices = some (pre ++ v :: post)) : ∀ u, g.Arc u v → u ∈ pre := by
  intro u hu
  exact (emit_sources_first h u hu).resolve_left List.not_mem_nil

theorem exists_sortedVertices (hacyclic : g.Acyclic) : ∃ order, g.sortedVertices = some order := by
  refine exists_emit hacyclic (Nat.le_refl _) ?_
  intro v _ u hu
  exact .inr (List.mem_mergeSort.mpr hu.source_mem)

/-- Along an arc the place in the order goes up. -/
theorem sortedVertices_idxOf_lt (h : g.sortedVertices = some order) (harc : g.Arc v w) :
    order.idxOf v < order.idxOf w := by
  have hw : w ∈ order := (sortedVertices_perm h).mem_iff.mpr harc.target_mem
  obtain ⟨pre, post, rfl, hfirst⟩ := List.eq_append_cons_of_mem hw
  have hv : v ∈ pre := sortedVertices_sources_first h v harc
  rw [List.idxOf_append_of_mem hv, List.idxOf_append_of_notMem hfirst, List.idxOf_cons_self]
  exact Nat.lt_add_right 0 (List.idxOf_lt_length_of_mem hv)

theorem acyclic_of_sortedVertices (h : g.sortedVertices = some order) : g.Acyclic := by
  have hup : ∀ {v w}, TransGen g.Arc v w → order.idxOf v < order.idxOf w := by
    intro v w hpath
    induction hpath with
    | single harc => exact sortedVertices_idxOf_lt h harc
    | tail _ harc ih => exact ih.trans (sortedVertices_idxOf_lt h harc)
  intro v hcycle
  exact Nat.lt_irrefl _ (hup hcycle)

/-! ## The nodes in order -/

theorem exists_emissionOrder (hacyclic : g.Acyclic) : ∃ nodes, g.emissionOrder = .ok nodes := by
  obtain ⟨order, h⟩ := exists_sortedVertices hacyclic
  exact ⟨order.filterMap g.node?, by simp [emissionOrder, h]⟩

theorem emissionOrder_eq_ok {nodes : List Node} (h : g.emissionOrder = .ok nodes) :
    ∃ order, g.sortedVertices = some order ∧ order.filterMap g.node? = nodes := by
  unfold emissionOrder at h
  split at h
  · rename_i order hsorted
    exact ⟨order, hsorted, Except.ok.inj h⟩
  · cases h

/-- Exactly the graphs without a cycle can be ordered. -/
theorem exists_emissionOrder_iff : (∃ nodes, g.emissionOrder = .ok nodes) ↔ g.Acyclic := by
  constructor
  · rintro ⟨nodes, h⟩
    obtain ⟨order, hsorted, _⟩ := emissionOrder_eq_ok h
    exact acyclic_of_sortedVertices hsorted
  · exact exists_emissionOrder

theorem emissionOrder_eq_cyclic_iff : g.emissionOrder = .error .cyclic ↔ ¬ g.Acyclic := by
  rw [← exists_emissionOrder_iff]
  unfold emissionOrder
  cases g.sortedVertices <;> simp

theorem filterMap_node?_vertices_perm (hdistinct : g.ids.Nodup) :
    (g.vertices.filterMap g.node?).Perm g.nodes := by
  have hinj : ∀ v w n, n ∈ g.node? v → n ∈ g.node? w → v = w := fun v w n hv hw =>
    (mem_of_node? hv).2.symm.trans (mem_of_node? hw).2
  refine (List.perm_ext_iff_of_nodup ((nodup_vertices g).filterMap hinj)
    (List.Nodup.of_map _ hdistinct)).mpr ?_
  intro n
  rw [List.mem_filterMap]
  constructor
  · rintro ⟨v, _, hv⟩
    exact (mem_of_node? hv).1
  · intro hn
    exact ⟨n.id, mem_vertices.mpr (.inl (mem_ids_of_mem hn)), node?_of_mem hdistinct hn⟩

/-- Each node is emitted exactly once. -/
theorem emissionOrder_perm {nodes : List Node} (hdistinct : g.ids.Nodup)
    (h : g.emissionOrder = .ok nodes) : nodes.Perm g.nodes := by
  obtain ⟨order, hsorted, rfl⟩ := emissionOrder_eq_ok h
  exact ((sortedVertices_perm hsorted).filterMap g.node?).trans
    (filterMap_node?_vertices_perm hdistinct)

theorem mem_of_emissionOrder {pre post : List Node} {n : Node} (hdistinct : g.ids.Nodup)
    (h : g.emissionOrder = .ok (pre ++ n :: post)) : n ∈ g.nodes :=
  (emissionOrder_perm hdistinct h).mem_iff.mp (by simp)

/-- The node at the source of an edge is emitted before the one at its target. -/
theorem emissionOrder_source_before {pre post : List Node} {m n : Node} {e : Edge}
    (hdistinct : g.ids.Nodup) (h : g.emissionOrder = .ok (pre ++ n :: post)) (he : e ∈ g.edges)
    (htarget : e.target = n.id) (hm : m ∈ g.nodes) (hsource : e.source = m.id) : m ∈ pre := by
  obtain ⟨order, hsorted, hnodes⟩ := emissionOrder_eq_ok h
  obtain ⟨front, back, rfl, hfront, hback⟩ := List.filterMap_eq_append_iff.mp hnodes
  obtain ⟨skipped, v, rest, rfl, hskipped, hv, _⟩ := List.filterMap_eq_cons_iff.mp hback
  have harc : g.Arc m.id v := ⟨e, he, hsource, htarget.trans (mem_of_node? hv).2⟩
  rw [← List.append_assoc] at hsorted
  have hbefore := sortedVertices_sources_first hsorted _ harc
  have hnode := node?_of_mem hdistinct hm
  rw [← hfront, List.mem_filterMap]
  refine ⟨m.id, (List.mem_append.mp hbefore).resolve_right ?_, hnode⟩
  -- `m` has a node, so it is not among the vertices skipped for having none
  intro hskip
  rw [hskipped _ hskip] at hnode
  cases hnode

/-! ## Topological orders -/

section

variable {nodes pre post : List Node} {n : Node}

/-- In the order of the nodes, the vertices that an arc to a node comes from stand before it. -/
def Topological (g : Graph) (nodes : List Node) : Prop :=
  ∀ pre n post, nodes = pre ++ n :: post → ∀ v, g.Arc v n.id → ∃ m ∈ pre, m.id = v

theorem topological_emissionOrder (hdistinct : g.ids.Nodup)
    (hsources : ∀ e ∈ g.edges, e.source ∈ g.ids) (h : g.emissionOrder = .ok nodes) :
    g.Topological nodes := by
  rintro pre n post rfl v ⟨e, he, hsource, htarget⟩
  obtain ⟨m, hm, hid⟩ := mem_ids.mp (hsources e he)
  exact ⟨m, emissionOrder_source_before hdistinct h he htarget hm hid.symm, hid.trans hsource⟩

/-- Where a path leads to a node, the vertex that it comes from stands before it. -/
theorem Topological.path_before (htop : g.Topological nodes) (h : nodes = pre ++ n :: post)
    (hpath : TransGen g.Arc v n.id) : ∃ m ∈ pre, m.id = v := by
  generalize hn : n.id = w at hpath
  induction hpath generalizing pre n post with
  | single harc => exact htop _ _ _ h _ (hn ▸ harc)
  | tail _ harc ih =>
      obtain ⟨m, hm, hid⟩ := htop _ _ _ h _ (hn ▸ harc)
      -- the path up to the last arc ends at a node that stands earlier
      obtain ⟨front, back, rfl⟩ := List.append_of_mem hm
      rw [List.append_assoc, List.cons_append] at h
      obtain ⟨first, hfirst, hv⟩ := ih h hid
      exact ⟨first, List.mem_append_left _ hfirst, hv⟩

/-- Where a path leads from one node to another, the first one is emitted before the second, if all
edges run between nodes. -/
theorem emissionOrder_path_before (hdistinct : g.ids.Nodup)
    (hsources : ∀ e ∈ g.edges, e.source ∈ g.ids)
    (h : g.emissionOrder = .ok (pre ++ n :: post)) (hpath : TransGen g.Arc v n.id) :
    ∃ m ∈ pre, m.id = v :=
  (topological_emissionOrder hdistinct hsources h).path_before rfl hpath

/-- A graph that has a topological order of all its nodes has no cycle. -/
theorem Topological.acyclic (htop : g.Topological nodes) (hperm : nodes.Perm g.nodes)
    (hdistinct : g.ids.Nodup) (hsources : ∀ e ∈ g.edges, e.source ∈ g.ids) : g.Acyclic := by
  intro v hcycle
  obtain ⟨w, ⟨e, he, rfl, _⟩, _⟩ := TransGen.head'_iff.mp hcycle
  obtain ⟨n, hn, hid⟩ := mem_ids.mp (hsources e he)
  obtain ⟨pre, post, rfl⟩ := List.append_of_mem (hperm.mem_iff.mpr hn)
  obtain ⟨m, hm, hsame⟩ := htop.path_before rfl (hid ▸ hcycle)
  -- the vertex would stand twice in the order
  have hids : ((pre ++ n :: post).map (·.id)).Nodup := (hperm.map _).nodup_iff.mpr hdistinct
  rw [List.map_append, List.nodup_append] at hids
  exact hids.2.2 m.id (List.mem_map_of_mem hm) n.id (by simp) hsame

end

end NodeGraph.Graph
