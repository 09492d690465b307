import NodeGraph.Proofs.Graph.Cycle
import NodeGraph.Validation

/-!
# The connections of a node

The messages about connections are written pass by pass: for one node after the other those about
its inputs, for one edge after the other those about its two ends, for one component after the other
those about its cycle. They are read node by node. `connectionMessages_eq` exchanges the two orders:
a node reads what the passes say about it, one pass after the other.
-/

namespace NodeGraph

/-! ## Remarks about a node -/

/-- The messages of those remarks that are about the node `id`. -/
def messagesFor (id : String) (remarks : List Remark) : List String :=
  (remarks.filter (·.node = id)).map (·.message)

section Remarks

variable {id v : String} {remark : Remark} {remarks others : List Remark}

@[simp] theorem messagesFor_nil : messagesFor id [] = [] := rfl

@[simp] theorem messagesFor_append :
    messagesFor id (remarks ++ others) = messagesFor id remarks ++ messagesFor id others := by
  simp only [messagesFor, List.filter_append, List.map_append]

theorem messagesFor_cons :
    messagesFor id (remark :: remarks) =
      (if remark.node = id then [remark.message] else []) ++ messagesFor id remarks := by
  rw [messagesFor, List.filter_cons]
  split <;> simp_all [messagesFor]

@[simp] theorem messagesFor_map_self (messages : List String) :
    messagesFor id (messages.map (⟨v, ·⟩)) = if v = id then messages else [] := by
  rw [messagesFor, List.filter_map, List.map_map]
  split
  · rename_i h
    subst h
    simp [Function.comp_def]
  · rename_i h
    simp [Function.comp_def, h]

theorem mem_messagesFor {m : String} :
    m ∈ messagesFor id remarks ↔ ∃ remark ∈ remarks, remark.node = id ∧ remark.message = m := by
  simp [messagesFor, and_assoc]

/-- The same message for several nodes. -/
theorem messagesFor_map (ids : List String) (message : String) :
    messagesFor id (ids.map (⟨·, message⟩)) = (ids.filter (· = id)).map fun _ => message := by
  rw [messagesFor, List.filter_map, List.map_map]
  rfl

end Remarks

/-! ## The log -/

namespace MessageLog

variable {log : MessageLog} {id : String}

theorem messages_insert (key : String) (messages : List String) :
    MessageLog.messages (log.insert key messages) id =
      if id = key then messages else log.messages id := by
  rw [MessageLog.messages, Table.get?_insert]
  split <;> rfl

theorem messages_foldl_insert {pairs : List (String × List String)}
    (hpairs : ∀ p ∈ pairs, p.2 = []) (hlog : log.messages id = []) :
    MessageLog.messages (pairs.foldl (fun log p => log.insert p.1 p.2) log) id = [] := by
  induction pairs generalizing log with
  | nil => exact hlog
  | cons p pairs ih =>
      refine ih (fun q hq => hpairs q (List.mem_cons_of_mem p hq)) ?_
      rw [messages_insert, hpairs p List.mem_cons_self, hlog, ite_self]

theorem messages_start (ids : List String) : (start ids).messages id = [] := by
  have hempty : ∀ p ∈ ids.map fun id => (id, ([] : List String)), p.2 = [] := by simp
  have hnone : MessageLog.messages Table.empty id = [] := rfl
  exact messages_foldl_insert hempty hnone

theorem messages_add (remark : Remark) :
    (log.add remark).messages id = log.messages id ++ messagesFor id [remark] := by
  rw [add, messages_insert, messagesFor_cons]
  by_cases h : remark.node = id
  · simp [h]
  · simp [h, Ne.symm h]

theorem messages_addAll (remarks : List Remark) :
    (log.addAll remarks).messages id = log.messages id ++ messagesFor id remarks := by
  rw [addAll]
  induction remarks generalizing log with
  | nil => exact (List.append_nil _).symm
  | cons remark remarks ih =>
      rw [List.foldl_cons, ih, messages_add, List.append_assoc, ← messagesFor_append]
      rfl

/-- A pass adds to what a node reads just the remarks of the pass about the node. -/
theorem messages_foldl {α : Type*} (remarks : α → List Remark) (passed : List α) :
    MessageLog.messages (passed.foldl (fun log a => log.addAll (remarks a)) log) id =
      log.messages id ++ passed.flatMap fun a => messagesFor id (remarks a) := by
  induction passed generalizing log with
  | nil => exact (List.append_nil _).symm
  | cons a passed ih =>
      rw [List.foldl_cons, ih, messages_addAll, List.append_assoc, List.flatMap_cons]

end MessageLog

/-! ## What a node reads -/

/-- What an edge makes wrong at the node `id`. -/
def edgeMessages (g : Graph) (definitions : Definitions) (id : String) (e : Edge) : List String :=
  messagesFor id (edgeRemarks g definitions e)

/-- What is wrong with the cycles through a node. -/
def cycleMessages (g : Graph) (id : String) : List String :=
  complain (g.isCyclic id) ("Node is part of a cycle: " ++ " -> ".intercalate (g.cycleOf id))

/-- The messages about the connections of a node. Nodes with the same id get theirs together. -/
def connectionMessages (g : Graph) (definitions : Definitions) (id : String) : List String :=
  (connectionLog g definitions).messages id

variable {g : Graph} {definitions : Definitions} {id v : String} {e : Edge}

/-- An edge with a missing end is reported at its other end, if that one is there. -/
theorem edgeMessages_of_dangling (hmissing : ¬ (e.source ∈ g.ids ∧ e.target ∈ g.ids)) :
    edgeMessages g definitions id e =
      (([e.source, e.target].filter (g.ids.contains ·)).filter (· = id)).map fun _ =>
        "Edge " ++ e.id ++ " references a missing node" := by
  have hunknown : (!g.ids.contains e.source || !g.ids.contains e.target) = true := by
    simpa [imp_iff_not_or] using hmissing
  rw [edgeMessages, edgeRemarks, if_pos hunknown, messagesFor_map]

theorem edgeMessages_of_known (hsource : e.source ∈ g.ids) (htarget : e.target ∈ g.ids) :
    edgeMessages g definitions id e =
      (if e.source = id then complain (((definitions e.source).map e.outputPin?).any (·.isNone))
        ("Unknown output pin \"" ++ e.sourceOutput.display ++ "\" on " ++ e.source) else []) ++
      if e.target = id then complain (((definitions e.target).map e.inputPin?).any (·.isNone))
          ("Unknown input pin \"" ++ e.targetInput.display ++ "\"") ++
        mismatchMessages ((definitions e.source).map e.outputPin?).join
          ((definitions e.target).map e.inputPin?).join
      else [] := by
  have hknown : (!g.ids.contains e.source || !g.ids.contains e.target) = false := by
    simp [hsource, htarget]
  simp only [edgeMessages, edgeRemarks, hknown, Bool.false_eq_true, if_false, messagesFor_append,
    messagesFor_map_self]

/-- The pass over the nodes. -/
theorem flatMap_unconnected (nodes : List Node) :
    (nodes.flatMap fun n =>
      messagesFor id ((unconnectedMessages g definitions n.id).map (⟨n.id, ·⟩))) =
      (nodes.filter (·.id = id)).flatMap fun _ => unconnectedMessages g definitions id := by
  induction nodes with
  | nil => rfl
  | cons n nodes ih =>
      rw [List.flatMap_cons, ih, messagesFor_map_self, List.filter_cons]
      by_cases h : n.id = id
      · simp [h]
      · simp [h]

/-- The pass over the components says about a node what is wrong with its own component. -/
theorem messagesFor_cycleRemarks (hid : id ∈ g.ids) (h : g.Joined id v) :
    messagesFor id (cycleRemarks g (g.component v)) =
      (g.ids.filter (· = id)).flatMap fun _ => cycleMessages g id := by
  have hinside : (g.component v).contains id = true :=
    List.contains_iff_mem.mpr (Graph.mem_component.mpr h.symm)
  rw [cycleMessages, ← Graph.isCyclic_eq_of_joined h, ← Graph.cycleOf_eq_of_joined h,
    Graph.cycleOf, cycleRemarks]
  dsimp only
  rw [← List.head?_filter, Graph.hasCycle_component]
  cases hmembers : g.ids.filter ((g.component v).contains ·) with
  | nil => exact absurd hinside (List.filter_eq_nil_iff.mp hmembers id hid)
  | cons start others =>
      dsimp only [List.head?_cons]
      split
      · rename_i hcyclic
        rw [messagesFor_map, ← hmembers, List.filter_filter, hcyclic]
        have hsame : ∀ w, (decide (w = id) && (g.component v).contains w) = decide (w = id) := by
          intro w
          by_cases hw : w = id
          · rw [hw, hinside, Bool.and_true]
          · simp [hw]
        simp only [hsame, complain, if_true]
        exact List.map_eq_flatMap
      · rename_i hacyclic
        simp [hacyclic, complain]

/-- A component without the node says nothing about it. -/
theorem messagesFor_cycleRemarks_of_not_joined (h : ¬ g.Joined id v) :
    messagesFor id (cycleRemarks g (g.component v)) = [] := by
  have hnone : (g.ids.filter ((g.component v).contains ·)).filter (· = id) = [] := by
    refine List.filter_eq_nil_iff.mpr fun w hw hid => h ?_
    obtain rfl := of_decide_eq_true hid
    exact (Graph.mem_component.mp (List.contains_iff_mem.mp (List.mem_filter.mp hw).2)).symm
  rw [cycleRemarks]
  split
  · rfl
  · rename_i hmembers
    split
    · rw [messagesFor_map, ← hmembers, hnone, List.map_nil]
    · rfl

theorem flatMap_cycleRemarks (hid : id ∈ g.ids) :
    (g.components.flatMap fun component => messagesFor id (cycleRemarks g component)) =
      (g.nodes.filter (·.id = id)).flatMap fun _ => cycleMessages g id := by
  obtain ⟨v, hjoined, hcomponents⟩ := Graph.flatMap_components
    (fun component => messagesFor id (cycleRemarks g component)) (Graph.mem_vertices.mpr (.inl hid))
    fun u hu => messagesFor_cycleRemarks_of_not_joined hu
  rw [hcomponents, messagesFor_cycleRemarks hid hjoined, Graph.ids, List.filter_map,
    List.flatMap_map]
  rfl

/-- A node reads what is said about its inputs, then what is said about each edge, then what is said
about its component. -/
theorem connectionMessages_eq (hid : id ∈ g.ids) :
    connectionMessages g definitions id =
      ((g.nodes.filter (·.id = id)).flatMap fun _ => unconnectedMessages g definitions id) ++
        g.edges.flatMap (edgeMessages g definitions id) ++
        (g.nodes.filter (·.id = id)).flatMap fun _ => cycleMessages g id := by
  simp only [connectionMessages, connectionLog, MessageLog.messages_foldl,
    MessageLog.messages_start, List.nil_append, flatMap_unconnected, flatMap_cycleRemarks hid]
  rfl

end NodeGraph
