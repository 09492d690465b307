import NodeGraph.Proofs.Validation.Connections

/-!
# Messages about cycles

A node gets one message about a cycle if a path of edges leads from it back to it, and none
otherwise, whatever else is wrong with its connections. The message shows a cycle of the node's
component, and all nodes of a component get the same message.
-/

namespace NodeGraph

/-- What a message about a cycle starts with. -/
def cycleHeading : String := "Node is part of a cycle: "

/-- The message about a cycle that is given by its vertices. -/
def cycleMessage (path : List String) : String := cycleHeading ++ " -> ".intercalate path

def isCycleMessage (message : String) : Bool :=
  cycleHeading.toList.isPrefixOf message.toList

/-! ## Telling messages apart -/

theorem isCycleMessage_cycleMessage (path : List String) :
    isCycleMessage (cycleMessage path) = true := by
  rw [isCycleMessage, cycleMessage, String.toList_append, List.isPrefixOf_iff_prefix]
  exact List.prefix_append _ _

/-- The first character of a text stays in front of what is appended. -/
theorem head?_toList_append {s t : String} {c : Char} (h : s.toList.head? = some c) :
    (s ++ t).toList.head? = some c := by
  rw [String.toList_append, List.head?_append, h, Option.some_or]

theorem isCycleMessage_of_head {message : String} {c : Char}
    (hhead : message.toList.head? = some c) (hc : c ≠ 'N') : isCycleMessage message = false := by
  obtain ⟨rest, hrest⟩ := List.head?_eq_some_iff.mp hhead
  have hheading : cycleHeading.toList = 'N' :: cycleHeading.toList.tail := rfl
  rw [isCycleMessage, hrest, hheading, List.isPrefixOf]
  simp [hc.symm]

theorem mem_complain {fails : Bool} {message m : String} (h : m ∈ complain fails message) :
    m = message := by
  cases fails with
  | true => exact List.mem_singleton.mp h
  | false => cases h

/-- No other message starts like one about a cycle. -/
theorem isCycleMessage_of_mem_unconnected {g : Graph} {definitions : Definitions} {id m : String}
    (h : m ∈ unconnectedMessages g definitions id) : isCycleMessage m = false := by
  obtain ⟨d, _, h⟩ := List.mem_flatMap.mp h
  obtain ⟨pin, _, h⟩ := List.mem_flatMap.mp h
  rw [mem_complain h]
  have hhead : "Required input \"".toList.head? = some 'R' := rfl
  exact isCycleMessage_of_head (head?_toList_append (head?_toList_append hhead)) (by decide)

theorem isCycleMessage_of_mem_edgeRemarks {g : Graph} {definitions : Definitions} {e : Edge}
    {remark : Remark} (h : remark ∈ edgeRemarks g definitions e) :
    isCycleMessage remark.message = false := by
  unfold edgeRemarks at h
  dsimp only at h
  split at h
  · obtain ⟨v, _, rfl⟩ := List.mem_map.mp h
    have hhead : "Edge ".toList.head? = some 'E' := rfl
    exact isCycleMessage_of_head (head?_toList_append (head?_toList_append hhead)) (by decide)
  · rcases List.mem_append.mp h with h | h
    · obtain ⟨m, hm, rfl⟩ := List.mem_map.mp h
      have hhead : "Unknown output pin \"".toList.head? = some 'U' := rfl
      rw [mem_complain hm]
      exact isCycleMessage_of_head
        (head?_toList_append (head?_toList_append (head?_toList_append hhead))) (by decide)
    · obtain ⟨m, hm, rfl⟩ := List.mem_map.mp h
      rcases List.mem_append.mp hm with hm | hm
      · have hhead : "Unknown input pin \"".toList.head? = some 'U' := rfl
        rw [mem_complain hm]
        exact isCycleMessage_of_head (head?_toList_append (head?_toList_append hhead)) (by decide)
      · unfold mismatchMessages at hm
        split at hm
        · have hhead : "Type mismatch: cannot connect ".toList.head? = some 'T' := rfl
          rw [mem_complain hm]
          exact isCycleMessage_of_head
            (head?_toList_append (head?_toList_append (head?_toList_append hhead))) (by decide)
        · cases hm

theorem isCycleMessage_of_mem_edge {g : Graph} {definitions : Definitions} {id m : String}
    {e : Edge} (h : m ∈ edgeMessages g definitions id e) : isCycleMessage m = false := by
  obtain ⟨remark, hremark, -, rfl⟩ := mem_messagesFor.mp h
  exact isCycleMessage_of_mem_edgeRemarks hremark

/-! ## One message for a node -/

variable {g : Graph} {definitions : Definitions} {n : Node}

theorem filter_id_eq (hdistinct : g.ids.Nodup) (hn : n ∈ g.nodes) :
    g.nodes.filter (·.id = n.id) = [n] := by
  have hnodup : g.nodes.Nodup := .of_map _ hdistinct
  refine List.perm_singleton.mp ((List.perm_ext_iff_of_nodup (hnodup.filter _)
    (List.nodup_singleton n)).mpr fun m => ?_)
  rw [List.mem_filter, List.mem_singleton, decide_eq_true_eq]
  constructor
  · rintro ⟨hm, hid⟩
    exact Graph.eq_of_id_eq hdistinct hm hn hid
  · rintro rfl
    exact ⟨hn, rfl⟩

/-- Of the messages about the connections of a node, those about a cycle. -/
theorem filter_connectionMessages (hdistinct : g.ids.Nodup) (hn : n ∈ g.nodes) :
    (connectionMessages g definitions n.id).filter isCycleMessage =
      if g.isCyclic n.id then [cycleMessage (g.cycleOf n.id)] else [] := by
  have hinputs : ((g.nodes.filter (·.id = n.id)).flatMap fun _ =>
      unconnectedMessages g definitions n.id).filter isCycleMessage = [] := by
    refine List.filter_eq_nil_iff.mpr fun m hm => ?_
    obtain ⟨_, _, hm⟩ := List.mem_flatMap.mp hm
    simp [isCycleMessage_of_mem_unconnected hm]
  have hedges : (g.edges.flatMap (edgeMessages g definitions n.id)).filter isCycleMessage = [] := by
    refine List.filter_eq_nil_iff.mpr fun m hm => ?_
    obtain ⟨_, _, hm⟩ := List.mem_flatMap.mp hm
    simp [isCycleMessage_of_mem_edge hm]
  have hcycle : ((g.nodes.filter (·.id = n.id)).flatMap fun _ => cycleMessages g n.id) =
      if g.isCyclic n.id then [cycleMessage (g.cycleOf n.id)] else [] := by
    rw [filter_id_eq hdistinct hn, List.flatMap_singleton]
    rfl
  simp only [connectionMessages_eq (Graph.mem_ids_of_mem hn), List.filter_append, hinputs, hedges,
    hcycle, List.nil_append]
  split
  · exact List.filter_eq_self.mpr fun m hm => by
      rw [List.mem_singleton.mp hm, isCycleMessage_cycleMessage]
  · rfl

/-- A node gets exactly one message about a cycle if it lies on a closed path of edges, and none
otherwise. The message shows a cycle that meets no vertex twice, whose arcs are edges of the graph
and whose vertices are joined to the node, and all nodes that are joined get the same message. -/
theorem cycleMessages_exact (hdistinct : g.ids.Nodup) (hn : n ∈ g.nodes) :
    (¬ Relation.TransGen g.Arc n.id n.id →
      (connectionMessages g definitions n.id).filter isCycleMessage = []) ∧
    (Relation.TransGen g.Arc n.id n.id → ∃ path, g.IsCycle path ∧ (∀ v ∈ path, g.Joined n.id v) ∧
      ∀ m ∈ g.nodes, g.Joined n.id m.id →
        (connectionMessages g definitions m.id).filter isCycleMessage = [cycleMessage path]) := by
  constructor
  · intro hnone
    rw [filter_connectionMessages hdistinct hn, if_neg (mt Graph.isCyclic_iff.mp hnone)]
  · intro hcycle
    obtain ⟨hpath, hjoined⟩ := Graph.isCycle_cycleOf (Graph.mem_ids_of_mem hn) hcycle
    refine ⟨g.cycleOf n.id, hpath, hjoined, fun m hm h => ?_⟩
    rw [filter_connectionMessages hdistinct hm, if_pos (Graph.isCyclic_iff.mpr (h.transGen hcycle)),
      Graph.cycleOf_eq_of_joined h]

/-- Two nodes on a circle through an id that is no node, with a shorter way round from the second
one back to that id. -/
def lasso : Graph :=
  ⟨[⟨"a", "Mark", .origin, []⟩, ⟨"b", "Mark", .origin, []⟩],
    [⟨"to", "a", .text "out", "x", .text "in"⟩, ⟨"on", "x", .text "out", "b", .text "in"⟩,
      ⟨"back", "b", .text "out", "x", .text "in"⟩, ⟨"home", "b", .text "out", "a", .text "in"⟩]⟩

example : cycleMessages lasso "a" = ["Node is part of a cycle: x -> b -> x"] := by decide +kernel

theorem lasso_cycle :
    lasso.ids.Nodup ∧ ⟨"a", "Mark", .origin, []⟩ ∈ lasso.nodes ∧
      Relation.TransGen lasso.Arc "a" "a" ∧
      ∃ path, lasso.IsCycle path ∧ (∀ v ∈ path, lasso.Joined "a" v) ∧
        ∀ m ∈ lasso.nodes, lasso.Joined "a" m.id →
          (connectionMessages lasso (fun _ => none) m.id).filter isCycleMessage =
            [cycleMessage path] := by
  have hdistinct : lasso.ids.Nodup := by decide
  have hn : ⟨"a", "Mark", .origin, []⟩ ∈ lasso.nodes := by simp [lasso]
  have hto : lasso.Arc "a" "x" := by simp [Graph.Arc, lasso]
  have hon : lasso.Arc "x" "b" := by simp [Graph.Arc, lasso]
  have hhome : lasso.Arc "b" "a" := by simp [Graph.Arc, lasso]
  have hcycle : Relation.TransGen lasso.Arc "a" "a" :=
    ((Relation.TransGen.single hto).tail hon).tail hhome
  exact ⟨hdistinct, hn, hcycle, (cycleMessages_exact hdistinct hn).2 hcycle⟩

end NodeGraph
