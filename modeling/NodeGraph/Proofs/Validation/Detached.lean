import NodeGraph.Proofs.Validation.Exactness

/-!
# Edges without nodes

What the absence of messages says about a graph whose ids may repeat and whose edges may end
nowhere. Messages are about nodes, so there is none about an edge that has no node at either end.
Every other edge has both ends, and a cycle that gets no message runs along edges without nodes.
-/

namespace NodeGraph

open Relation

namespace Graph

/-- Some edge leads from `v` to `w`, neither of which is a node. -/
def DetachedArc (g : Graph) (v w : String) : Prop :=
  g.Arc v w ∧ v ∉ g.ids ∧ w ∉ g.ids

/-- Edges without nodes run in a circle. -/
def HasDetachedCycle (g : Graph) : Prop :=
  ∃ v, TransGen g.DetachedArc v v

theorem HasDetachedCycle.not_acyclic {g : Graph} (h : g.HasDetachedCycle) : ¬ g.Acyclic := by
  obtain ⟨v, hcycle⟩ := h
  intro hacyclic
  exact hacyclic v (TransGen.mono (fun _ _ harc => harc.1) v v hcycle)

end Graph

section

variable {g : Graph} {r : Registry} {definitions : Definitions}

/-- An edge that ends at a node is reported there if its other end is missing. -/
theorem ends_of_edgeMessages {e : Edge} {id : String} (hid : id ∈ g.ids)
    (hend : e.source = id ∨ e.target = id) (h : edgeMessages g definitions id e = []) :
    e.source ∈ g.ids ∧ e.target ∈ g.ids := by
  by_contra hmissing
  rw [edgeMessages_of_dangling hmissing, List.map_eq_nil_iff, List.filter_filter,
    List.filter_eq_nil_iff] at h
  rcases hend with rfl | rfl
  · have hsource := h e.source (by simp)
    simp [hid] at hsource
  · have htarget := h e.target (by simp)
    simp [hid] at htarget

/-- No message at any node, and pins that can be looked up. -/
theorem validate_eq_nil_iff_messages :
    validate g r = .ok [] ↔ (∀ e ∈ g.edges, e.targetInput.isKey = true) ∧
      ∀ n ∈ g.nodes,
        messagesOf (connectionLog g (r.definitionsOf g)) (r.definitionsOf g) n = .ok [] := by
  rw [← errorsOf_eq_nil_iff, ← List.all_eq_true]
  unfold validate
  split
  · rename_i hkeys
    rw [and_iff_right hkeys]
    split
    · rfl
    · rename_i hwritable
      refine iff_of_false (fun h => by cases h) ?_
      intro h
      exact hwritable (List.all_eq_true.mpr fun e he => edgeIsWritable_of_errorsOf h he)
  · rename_i hkeys
    simp [hkeys]

theorem connectionMessages_of_validate (h : validate g r = .ok []) {n : Node} (hn : n ∈ g.nodes) :
    connectionMessages g (r.definitionsOf g) n.id = [] := by
  obtain ⟨_, _, _, hconnections⟩ :=
    messagesOf_eq_nil_iff.mp ((validate_eq_nil_iff_messages.mp h).2 n hn)
  exact hconnections

/-- Of the edges of a graph without messages, each has both ends or none. -/
theorem source_mem_iff_target_mem (h : validate g r = .ok []) {e : Edge} (he : e ∈ g.edges) :
    e.source ∈ g.ids ↔ e.target ∈ g.ids := by
  have hboth : ∀ id ∈ g.ids, e.source = id ∨ e.target = id →
      e.source ∈ g.ids ∧ e.target ∈ g.ids := by
    intro id hid hend
    obtain ⟨n, hn, rfl⟩ := Graph.mem_ids.mp hid
    obtain ⟨_, hedges, _⟩ :=
      (connectionMessages_eq_nil_iff hn).mp (connectionMessages_of_validate h hn)
    exact ends_of_edgeMessages hid hend (hedges e he)
  exact ⟨fun hsource => (hboth _ hsource (.inl rfl)).2,
    fun htarget => (hboth _ htarget (.inr rfl)).1⟩

theorem not_transGen_of_mem_ids (h : validate g r = .ok []) {v : String} (hv : v ∈ g.ids) :
    ¬ TransGen g.Arc v v := by
  obtain ⟨n, hn, rfl⟩ := Graph.mem_ids.mp hv
  obtain ⟨_, _, hcycle⟩ :=
    (connectionMessages_eq_nil_iff hn).mp (connectionMessages_of_validate h hn)
  rw [← Graph.isCyclic_iff, hcycle]
  exact Bool.false_ne_true

/-- A path from what is no node stays away from the nodes. -/
theorem detached_of_transGen (h : validate g r = .ok []) {v w : String} (hv : v ∉ g.ids)
    (hpath : TransGen g.Arc v w) : TransGen g.DetachedArc v w ∧ w ∉ g.ids := by
  have hstep : ∀ {a b}, g.Arc a b → a ∉ g.ids → b ∉ g.ids := by
    rintro a b ⟨e, he, rfl, rfl⟩ ha
    rwa [← source_mem_iff_target_mem h he]
  induction hpath with
  | single harc =>
      have hw := hstep harc hv
      exact ⟨.single ⟨harc, hv, hw⟩, hw⟩
  | tail _ harc ih =>
      obtain ⟨hbefore, hmid⟩ := ih
      have hw := hstep harc hmid
      exact ⟨hbefore.tail ⟨harc, hmid, hw⟩, hw⟩

/-- The cycles that get no message are those of edges without nodes. -/
theorem acyclic_iff_of_validate (h : validate g r = .ok []) :
    g.Acyclic ↔ ¬ g.HasDetachedCycle := by
  refine ⟨fun hacyclic hcycle => hcycle.not_acyclic hacyclic, fun hnone v hcycle => ?_⟩
  by_cases hv : v ∈ g.ids
  · exact not_transGen_of_mem_ids h hv hcycle
  · exact hnone ⟨v, (detached_of_transGen h hv hcycle).1⟩

end

end NodeGraph
