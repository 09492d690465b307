import NodeGraph.Proofs.Store.Saving

/-!
# Deleting nodes

A node goes with the edges that start or end at it, with its highlight, and with the selection if
it is the selected one. Everything else stays as it is and where it is. All of this is filtering, so
nodes can be deleted in any order.
-/

namespace NodeGraph

namespace Store

open Edit

variable {s : Store} {w : Workspace} {a b key : String}

/-! ## Runs -/

theorem run_deleteNode_of_mem (h : key ∈ w.store.nodes.keys) :
    (deleteNode (.text key)).run w = .ok true ⟨w.store.withoutNode key, w.ids⟩ := by
  rw [deleteNode, run_store_bind, run_orFail_bind_eq_ok_iff]
  refine ⟨some key, rfl, ?_⟩
  simp only [Table.contains_iff.mpr h, Bool.not_true, Bool.false_eq_true, if_false]
  rfl

theorem run_deleteNode_of_notMem (h : key ∉ w.store.nodes.keys) :
    (deleteNode (.text key)).run w = .ok false w := by
  have hcontains : w.store.nodes.contains key = false :=
    Bool.eq_false_iff.mpr fun hc => h (Table.contains_iff.mp hc)
  rw [deleteNode, run_store_bind, run_orFail_bind_eq_ok_iff]
  refine ⟨some key, rfl, ?_⟩
  simp only [hcontains, Bool.not_false, if_true]
  rfl

/-! ## What is left -/

theorem edges_withoutNode (s : Store) (key : String) :
    (s.withoutNode key).graph.edges =
      s.graph.edges.filter fun e => e.source ≠ key ∧ e.target ≠ key := by
  refine (Table.values_filter s.edges _).trans (List.filter_congr fun e _ => ?_)
  rw [Bool.decide_and]

theorem selected_withoutNode (s : Store) (key : String) :
    (s.withoutNode key).selected = if s.selected = .text key then .null else s.selected :=
  if_congr Value.eqv_text_iff rfl rfl

theorem highlighted_withoutNode (s : Store) (key : String) :
    (s.withoutNode key).highlighted = s.highlighted.filter (· ≠ .text key) := by
  refine List.filter_congr fun h _ => ?_
  rw [Bool.eq_iff_iff, Bool.not_eq_true', Bool.eq_false_iff, Ne, Value.eqv_text_iff,
    decide_eq_true_iff]

theorem withoutNode_comm (s : Store) (a b : String) :
    (s.withoutNode a).withoutNode b = (s.withoutNode b).withoutNode a := by
  have hselected : ((s.withoutNode a).withoutNode b).selected =
      ((s.withoutNode b).withoutNode a).selected := by
    simp only [selected_withoutNode]
    split_ifs <;> simp_all
  have hhighlighted : ((s.withoutNode a).withoutNode b).highlighted =
      ((s.withoutNode b).withoutNode a).highlighted := by
    simp only [highlighted_withoutNode, List.filter_filter]
    exact List.filter_congr fun h _ => Bool.and_comm _ _
  have hnodes : (s.nodes.erase a).erase b = (s.nodes.erase b).erase a :=
    Table.filter_comm s.nodes _ _
  have hedges := Table.filter_comm s.edges (fun _ e => e.source ≠ a && e.target ≠ a)
    (fun _ e => e.source ≠ b && e.target ≠ b)
  show Store.mk _ _ _ _ _ = Store.mk _ _ _ _ _
  rw [Store.mk.injEq]
  exact ⟨hnodes, hedges, hselected, hhighlighted, rfl⟩

theorem run_deleteNode_other (hb : b ∈ w.store.nodes.keys) (hab : a ≠ b) (ids : Ids) :
    (deleteNode (.text b)).run ⟨w.store.withoutNode a, ids⟩ =
      .ok true ⟨(w.store.withoutNode a).withoutNode b, ids⟩ :=
  run_deleteNode_of_mem (Table.mem_keys_erase.mpr ⟨hb, hab.symm⟩)

theorem run_deleteNode_again (a : String) (ids : Ids) :
    (deleteNode (.text a)).run ⟨s.withoutNode a, ids⟩ = .ok false ⟨s.withoutNode a, ids⟩ :=
  run_deleteNode_of_notMem fun hmem => (Table.mem_keys_erase.mp hmem).2 rfl

/-- The second of two deletions finds its node unless it is that of the first. -/
theorem exists_run_deleteNode_twice (ha : a ∈ w.store.nodes.keys) (hb : b ∈ w.store.nodes.keys) :
    ∃ w', (do
        let _ ← deleteNode (.text a)
        deleteNode (.text b)).run w = .ok (a ≠ b) w' ∧
      (do
        let _ ← deleteNode (.text b)
        deleteNode (.text a)).run w = .ok (a ≠ b) w' := by
  rw [run_bind_of_ok (run_deleteNode_of_mem ha), run_bind_of_ok (run_deleteNode_of_mem hb)]
  by_cases hab : a = b
  · subst hab
    rw [run_deleteNode_again, decide_eq_false (not_not_intro rfl)]
    exact ⟨_, rfl, rfl⟩
  · rw [run_deleteNode_other hb hab, run_deleteNode_other ha (Ne.symm hab), withoutNode_comm,
      decide_eq_true hab]
    exact ⟨_, rfl, rfl⟩

end Store

open Store

/-- In every store that a run leads to, deleting a node takes out this node, exactly the edges that
start or end at it, its highlight, and the selection if it is selected. All else stays in its order,
the errors found last too. Which of two nodes is deleted first makes no difference to the store. -/
theorem Workspace.deleteNode_after (ids : Ids) (calls : List Call) :
    let w := (start ids).after calls
    (∀ key ∈ w.store.graph.ids, ∃ w', (deleteNode (.text key)).run w = .ok true w' ∧
      w'.store.graph.nodes = w.store.graph.nodes.filter (·.id ≠ key) ∧
      w'.store.graph.edges =
        w.store.graph.edges.filter (fun e => e.source ≠ key ∧ e.target ≠ key) ∧
      w'.store.selected = (if w.store.selected = .text key then .null else w.store.selected) ∧
      w'.store.highlighted = w.store.highlighted.filter (· ≠ .text key) ∧
      w'.store.errors = w.store.errors ∧ w'.ids = w.ids) ∧
    ∀ a ∈ w.store.graph.ids, ∀ b ∈ w.store.graph.ids, ∃ w',
      (do
        let _ ← deleteNode (.text a)
        deleteNode (.text b)).run w = .ok (a ≠ b) w' ∧
      (do
        let _ ← deleteNode (.text b)
        deleteNode (.text a)).run w = .ok (a ≠ b) w' := by
  intro w
  have hs : w.store.Consistent := consistent_after .empty calls
  rw [hs.ids_eq]
  constructor
  · intro key hkey
    refine ⟨_, run_deleteNode_of_mem hkey, hs.nodes_keyed.values_erase key, ?_,
      selected_withoutNode _ key, highlighted_withoutNode _ key, rfl, rfl⟩
    exact edges_withoutNode _ key
  · exact fun a ha b hb => exists_run_deleteNode_twice ha hb

/-- A graph with two edges alike, a loop and an edge on, of which two nodes are highlighted and one
of them is selected. -/
def tangleCalls : List Call :=
  [takeOver ⟨[⟨"a", "Relay", .origin, []⟩, ⟨"b", "Relay", .origin, []⟩,
        ⟨"c", "Relay", .origin, []⟩],
      [⟨"e1", "a", .text "out", "b", .text "in"⟩, ⟨"e2", "b", .text "out", "c", .text "in"⟩,
        ⟨"e3", "a", .text "out", "b", .text "in"⟩, ⟨"e4", "a", .text "out", "a", .text "in"⟩]⟩,
    ⟨.empty, .standard, .toggleHighlight (.text "c")⟩,
    ⟨.empty, .standard, .toggleHighlight (.text "a")⟩,
    ⟨.empty, .standard, .select (.text "a")⟩]

theorem tangle_without_a :
    let w := (Workspace.start ⟨[], 1⟩).after tangleCalls
    "a" ∈ w.store.graph.ids ∧ ∃ w', (deleteNode (.text "a")).run w = .ok true w' ∧
      w'.store.graph.ids = ["b", "c"] ∧ w'.store.graph.edges.map (·.id) = ["e2"] ∧
      w'.store.selected = .null ∧ w'.store.highlighted = [.text "c"] := by
  intro w
  have ha : "a" ∈ w.store.graph.ids := by decide
  obtain ⟨w', hrun, hnodes, hedges, hselected, hhighlighted, _⟩ :=
    (Workspace.deleteNode_after ⟨[], 1⟩ tangleCalls).1 "a" ha
  refine ⟨ha, w', hrun, ?_, ?_, hselected.trans (if_pos rfl), ?_⟩
  · rw [Graph.ids, hnodes]
    rfl
  · rw [hedges]
    rfl
  · have hbefore : w.store.highlighted = [.text "c", .text "a"] := by
      show (if [Value.text "c"].any (·.eqv (.text "a")) then _ else [Value.text "c", .text "a"]) = _
      simp [Value.eqv]
    rw [hhighlighted, hbefore]
    simp

end NodeGraph
