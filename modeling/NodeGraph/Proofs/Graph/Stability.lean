import NodeGraph.Proofs.Graph.EmissionOrder

/-!
# Stability of the order of emission

Between nodes the order of emission departs from the order of the graph only where an edge asks for
it. Each node that is emitted stands before all other nodes that could have been emitted in its
place, and a graph whose edges all lead forward is emitted as it stands.

If edges end at ids that are no nodes, these are emitted too, behind all nodes that are ready, and a
node may have to wait for one of them.
-/

namespace NodeGraph.Graph

open Relation

variable {g : Graph} {v : String} {fuel : Nat} {done waiting : List String}

/-! ## The first ready vertex -/

/-- In whatever order the vertices wait, no ready one stands before the one that is emitted. -/
theorem emit_first_ready {before : String → String → Prop} {pre post : List String}
    (hbefore : waiting.Pairwise before) (h : g.emit fuel done waiting = some (pre ++ v :: post)) :
    ∀ u ∈ waiting, u ∉ pre → (∀ x, g.Arc x u → x ∈ done ∨ x ∈ pre) → u = v ∨ before v u := by
  induction pre generalizing fuel done waiting with
  | nil =>
      rcases emit_cases h with ⟨_, heq⟩ | ⟨_, x, _, hfind, heq, _⟩
      · cases heq
      · obtain ⟨rfl, rfl⟩ := List.cons.inj heq
        intro u hu _ hsources
        obtain ⟨_, front, back, rfl, hfront⟩ := List.find?_eq_some_iff_append.mp hfind
        have hready : g.isReady done u = true :=
          isReady_iff.mpr fun x hx => (hsources x hx).resolve_right List.not_mem_nil
        rcases List.mem_append.mp hu with hu | hu
        · have hnot := hfront u hu
          rw [hready] at hnot
          cases hnot
        · rcases List.mem_cons.mp hu with rfl | hu
          · exact .inl rfl
          · exact .inr (List.rel_of_pairwise_cons (List.pairwise_append.mp hbefore).2.1 hu)
  | cons x pre ih =>
      rcases emit_cases h with ⟨_, heq⟩ | ⟨_, y, _, _, heq, hrest⟩
      · cases heq
      · obtain ⟨rfl, rfl⟩ := List.cons.inj heq
        intro u hu hnew hsources
        obtain ⟨hne, hnew⟩ := List.ne_and_not_mem_of_not_mem_cons hnew
        refine ih (hbefore.erase x) hrest u ((List.mem_erase_of_ne hne).mpr hu) hnew ?_
        -- what was emitted first is done from then on
        intro z hz
        rcases hsources z hz with hdone | hpre
        · exact .inl (List.mem_cons_of_mem _ hdone)
        · rcases List.mem_cons.mp hpre with rfl | hpre
          · exact .inl List.mem_cons_self
          · exact .inr hpre

/-- If the sources of each vertex are done or wait before it, all are emitted as they wait. -/
theorem emit_eq_self (hfuel : waiting.length ≤ fuel)
    (hsources : ∀ pre v post, waiting = pre ++ v :: post →
      ∀ u, g.Arc u v → u ∈ done ∨ u ∈ pre) :
    g.emit fuel done waiting = some waiting := by
  induction waiting generalizing fuel done with
  | nil => exact emit.eq_1 ..
  | cons v rest ih =>
      obtain ⟨fuel, rfl⟩ := Nat.exists_eq_add_one_of_ne_zero (Nat.ne_zero_of_lt hfuel)
      have hready : g.isReady done v = true :=
        isReady_iff.mpr fun u hu => (hsources [] v rest rfl u hu).resolve_right List.not_mem_nil
      have hrest : g.emit fuel (v :: done) rest = some rest := by
        refine ih (Nat.le_of_succ_le_succ hfuel) ?_
        rintro pre w post rfl u hu
        rcases hsources (v :: pre) w post rfl u hu with hdone | hpre
        · exact .inl (List.mem_cons_of_mem _ hdone)
        · rcases List.mem_cons.mp hpre with rfl | hpre
          · exact .inl List.mem_cons_self
          · exact .inr hpre
      simp [emit, hready, hrest]

/-! ## Graphs without loose ends -/

theorem rank_getElem (hdistinct : g.ids.Nodup) (i : Nat) (hi : i < g.ids.length) :
    g.rank g.ids[i] = i := by
  have hplace : g.ids.reverse.idxOf? g.ids[i] = some (g.ids.length - 1 - i) := by
    have hreverse : g.ids.length - 1 - i < g.ids.reverse.length := by
      rw [List.length_reverse]
      omega
    have hsame : g.ids.reverse[g.ids.length - 1 - i] = g.ids[i] := by
      rw [List.getElem_reverse]
      congr 1
      omega
    refine List.idxOf?_eq_some_iff.mpr ⟨hreverse, hsame, fun j hj heq => ?_⟩
    have := (List.nodup_reverse.mpr hdistinct).getElem_inj_iff.mp (heq.trans hsame.symm)
    omega
  rw [rank, hplace]
  show g.ids.length - 1 - (g.ids.length - 1 - i) = i
  omega

/-- Only nodes wait, in the order of the graph. -/
theorem sortedVertices_eq_emit (hdistinct : g.ids.Nodup)
    (hends : ∀ e ∈ g.edges, e.source ∈ g.ids ∧ e.target ∈ g.ids) :
    g.sortedVertices = g.emit g.ids.length [] g.ids := by
  have hsorted : g.ids.mergeSort (fun v w => g.rank v ≤ g.rank w) = g.ids := by
    refine List.mergeSort_of_pairwise (List.pairwise_iff_getElem.mpr ?_)
    intro i j hi hj hlt
    rw [rank_getElem hdistinct i hi, rank_getElem hdistinct j hj]
    exact decide_eq_true hlt.le
  rw [sortedVertices, vertices_eq_ids hdistinct hends, hsorted]

theorem pairwise_idxOf (hdistinct : g.ids.Nodup) :
    g.ids.Pairwise fun v w => g.ids.idxOf v < g.ids.idxOf w := by
  refine List.pairwise_iff_getElem.mpr fun i j hi hj hlt => ?_
  rwa [hdistinct.idxOf_getElem i hi, hdistinct.idxOf_getElem j hj]

/-- The vertices that are emitted are the ids of the nodes that are emitted. -/
theorem map_id_of_emissionOrder (hdistinct : g.ids.Nodup)
    (hends : ∀ e ∈ g.edges, e.source ∈ g.ids ∧ e.target ∈ g.ids) {nodes : List Node}
    (h : g.emissionOrder = .ok nodes) : g.sortedVertices = some (nodes.map (·.id)) := by
  obtain ⟨order, hsorted, rfl⟩ := emissionOrder_eq_ok h
  have hmem : ∀ v ∈ order, v ∈ g.ids := by
    intro v hv
    rw [← vertices_eq_ids hdistinct hends]
    exact (sortedVertices_perm hsorted).mem_iff.mp hv
  rw [hsorted, List.map_filterMap]
  congr 1
  symm
  calc order.filterMap (fun v => (g.node? v).map (·.id))
      = order.filterMap some := by
        refine List.filterMap_congr fun v hv => ?_
        obtain ⟨n, hn⟩ := Option.isSome_iff_exists.mp (node?_isSome.mpr (hmem v hv))
        rw [hn, Option.map_some, (mem_of_node? hn).2]
    _ = order := List.filterMap_some

/-! ## Emitted nodes -/

/-- All edges to a node come from nodes that are emitted. -/
def IsFree (g : Graph) (emitted : List Node) (n : Node) : Prop :=
  ∀ e ∈ g.edges, e.target = n.id → ∃ m ∈ emitted, e.source = m.id

/-- The nodes of a graph, each one exactly once, where an edge leads from one to another the first
before the second. -/
structure IsOrdered (g : Graph) (nodes : List Node) : Prop where
  perm : nodes.Perm g.nodes
  source_before : ∀ pre n post, nodes = pre ++ n :: post →
    ∀ e ∈ g.edges, e.target = n.id → ∀ m ∈ g.nodes, e.source = m.id → m ∈ pre

/-- Each node is free when it is emitted, and of the nodes that are free then, the first one in the
graph. -/
structure IsStable (g : Graph) (nodes : List Node) : Prop where
  free : ∀ pre n post, nodes = pre ++ n :: post → g.IsFree pre n
  first : ∀ pre n post, nodes = pre ++ n :: post →
    ∀ m ∈ g.nodes, m ∉ pre → g.IsFree pre m → g.ids.idxOf n.id ≤ g.ids.idxOf m.id

/-- Every edge leads from a node to one further behind. -/
def LeadsForward (g : Graph) : Prop :=
  ∀ e ∈ g.edges, g.ids.idxOf e.source < g.ids.idxOf e.target

theorem isOrdered_of_emissionOrder (hdistinct : g.ids.Nodup) {nodes : List Node}
    (h : g.emissionOrder = .ok nodes) : g.IsOrdered nodes where
  perm := emissionOrder_perm hdistinct h
  source_before := by
    rintro pre n post rfl e he htarget m hm hsource
    exact emissionOrder_source_before hdistinct h he htarget hm hsource

theorem isStable_of_emissionOrder (hdistinct : g.ids.Nodup)
    (hends : ∀ e ∈ g.edges, e.source ∈ g.ids ∧ e.target ∈ g.ids) {nodes : List Node}
    (h : g.emissionOrder = .ok nodes) : g.IsStable nodes where
  free := by
    rintro pre n post rfl e he htarget
    obtain ⟨m, hm, hid⟩ := mem_ids.mp (hends e he).1
    exact ⟨m, emissionOrder_source_before hdistinct h he htarget hm hid.symm, hid.symm⟩
  first := by
    rintro pre n post rfl m hm hnew hfree
    have hsorted := map_id_of_emissionOrder hdistinct hends h
    rw [List.map_append, List.map_cons, sortedVertices_eq_emit hdistinct hends] at hsorted
    -- different nodes have different ids, so the id of `m` is new too
    have hnewId : m.id ∉ pre.map (·.id) := by
      rw [List.mem_map]
      rintro ⟨k, hk, hid⟩
      have hmem : k ∈ g.nodes := (emissionOrder_perm hdistinct h).mem_iff.mp (by simp [hk])
      exact hnew (eq_of_id_eq hdistinct hmem hm hid ▸ hk)
    have hsources : ∀ x, g.Arc x m.id → x ∈ ([] : List String) ∨ x ∈ pre.map (·.id) := by
      rintro x ⟨e, he, rfl, htarget⟩
      obtain ⟨k, hk, hsource⟩ := hfree e he htarget
      exact .inr (List.mem_map.mpr ⟨k, hk, hsource.symm⟩)
    rcases emit_first_ready (pairwise_idxOf hdistinct) hsorted m.id (mem_ids_of_mem hm) hnewId
      hsources with heq | hlt
    · rw [heq]
    · exact hlt.le

/-- A graph whose edges lead forward is emitted as it stands. -/
theorem emissionOrder_of_leadsForward (hdistinct : g.ids.Nodup)
    (hends : ∀ e ∈ g.edges, e.source ∈ g.ids ∧ e.target ∈ g.ids) (h : g.LeadsForward) :
    g.emissionOrder = .ok g.nodes := by
  have hsorted : g.sortedVertices = some g.ids := by
    rw [sortedVertices_eq_emit hdistinct hends]
    refine emit_eq_self (Nat.le_refl _) ?_
    rintro pre v post hids u ⟨e, he, rfl, rfl⟩
    have hlt := h e he
    have hsource := (hends e he).1
    rw [hids] at hlt hsource hdistinct
    have hfirst : e.target ∉ pre := fun hmem =>
      (List.nodup_append.mp hdistinct).2.2 _ hmem _ List.mem_cons_self rfl
    rw [List.idxOf_append_of_notMem hfirst, List.idxOf_cons_self] at hlt
    by_contra hnot
    rw [List.idxOf_append_of_notMem fun hmem => hnot (.inr hmem)] at hlt
    omega
  have hnodes : g.ids.filterMap g.node? = g.nodes := by
    rw [ids, List.filterMap_map]
    calc g.nodes.filterMap (g.node? ∘ (·.id))
        = g.nodes.filterMap some :=
          List.filterMap_congr fun n hn => node?_of_mem hdistinct hn
      _ = g.nodes := List.filterMap_some
  rw [emissionOrder, hsorted]
  exact congrArg Except.ok hnodes

/-- A graph has an order of emission unless a path of edges leads from an id back to it; nothing
else stops the search. The order has each node once, sources first. If edges end at nodes only, each
node is emitted as early as its sources and the nodes before it in the graph allow, so that a graph
whose edges lead forward is emitted as it stands. -/
theorem emissionOrder_stable (hdistinct : g.ids.Nodup) :
    (g.emissionOrder = .error .cyclic ↔ ∃ v, TransGen g.Arc v v) ∧
    ((¬ ∃ v, TransGen g.Arc v v) → ∃ nodes, g.emissionOrder = .ok nodes ∧ g.IsOrdered nodes ∧
      ((∀ e ∈ g.edges, e.source ∈ g.ids ∧ e.target ∈ g.ids) →
        g.IsStable nodes ∧ (g.LeadsForward → nodes = g.nodes))) := by
  have hcyclic : (∃ v, TransGen g.Arc v v) ↔ ¬ g.Acyclic := by
    rw [Acyclic, not_forall]
    simp only [not_not]
  rw [hcyclic, not_not]
  refine ⟨emissionOrder_eq_cyclic_iff, fun hacyclic => ?_⟩
  obtain ⟨nodes, h⟩ := exists_emissionOrder hacyclic
  refine ⟨nodes, h, isOrdered_of_emissionOrder hdistinct h, fun hends => ?_⟩
  refine ⟨isStable_of_emissionOrder hdistinct hends h, fun hforward => ?_⟩
  exact Except.ok.inj (h.symm.trans (emissionOrder_of_leadsForward hdistinct hends hforward))

/-- Three nodes, the first of which has two edges from the last. -/
def lateSource : Graph :=
  ⟨[⟨"a", "Print", .origin, []⟩, ⟨"b", "Constant", .origin, []⟩, ⟨"c", "Constant", .origin, []⟩],
    [⟨"e", "c", .text "value", "a", .text "in"⟩, ⟨"f", "c", .text "value", "a", .text "in"⟩]⟩

theorem lateSource_stable :
    lateSource.ids.Nodup ∧ (¬ ∃ v, TransGen lateSource.Arc v v) ∧
      (∀ e ∈ lateSource.edges, e.source ∈ lateSource.ids ∧ e.target ∈ lateSource.ids) ∧
      ∃ nodes, lateSource.emissionOrder = .ok nodes ∧ nodes.map (·.id) = ["b", "c", "a"] ∧
        lateSource.IsOrdered nodes ∧ lateSource.IsStable nodes := by
  have hdistinct : lateSource.ids.Nodup := by decide
  have hends : ∀ e ∈ lateSource.edges, e.source ∈ lateSource.ids ∧ e.target ∈ lateSource.ids := by
    simp [lateSource, ids]
  have hsorted : lateSource.sortedVertices = some ["b", "c", "a"] := by
    rw [sortedVertices_eq_emit hdistinct hends]
    decide
  obtain ⟨hcyclic, hordered⟩ := emissionOrder_stable hdistinct
  have hacyclic : ¬ ∃ v, TransGen lateSource.Arc v v := by
    rw [← hcyclic, emissionOrder, hsorted]
    intro h
    cases h
  obtain ⟨nodes, h, hordered, hstable⟩ := hordered hacyclic
  have hids : nodes.map (·.id) = ["b", "c", "a"] :=
    Option.some.inj ((map_id_of_emissionOrder hdistinct hends h).symm.trans hsorted)
  exact ⟨hdistinct, hacyclic, hends, nodes, h, hids, hordered, (hstable hends).1⟩

end NodeGraph.Graph
