import NodeGraph.Proofs.Number.Layout
import NodeGraph.Proofs.Validation.Completion
import NodeGraph.Proofs.Validation.Cycles

/-!
# The report on a graph

`Graph.complaints` lists for one node all that is wrong with it, from its values to the edges at its
inputs and outputs and the cycle it lies on, and `Graph.report` has an entry for each node with
complaints. No pass over edges or components occurs there. Validation gives this report wherever it
gives an answer at all.

Edges may end nowhere, and types may be unknown. Of a node of unknown type neither the values nor
the inputs are looked at, but its edges are, as far as the type at their other end is known.
-/

namespace NodeGraph

/-! ## What is wrong with a node -/

/-- What is wrong with a value that is given for a field. -/
def FieldSpec.complaints (spec : FieldSpec) (name : String) (v : Value) : List String :=
  match spec.kind with
  | .choice => choiceMessages name spec v
  | .number => (numberMessages name spec v).toOption.getD []
  | .boolean => []
  | .text | .multiline => spec.constraints.toList.flatMap fun rules => textMessages name rules v

/-- What is wrong with the values of a node: the missing ones, what the hook says, and the given
ones that do not suit. -/
def Node.complaints (n : Node) (d : NodeDefinition) : List String :=
  (d.fields.entries.filter fun p => p.2.required && (n.field p.1).isEmpty).map
      (fun p => fieldLabel p.1 ++ "is required") ++
    ((d.hook.map (·.check n)).getD [] ++
    (d.fields.entries.filter fun p => !(n.field p.1).isUnset).flatMap fun p =>
      p.2.complaints p.1 (n.field p.1))

/-- What is said about the required inputs of a node that no edge ends in. -/
def Node.openInputs (n : Node) (g : Graph) (d : NodeDefinition) : List String :=
  (d.pins.inputs.filter fun pin => !pin.isOptional && !g.isConnected n.id pin.name).map fun pin =>
    "Required input \"" ++ pin.name ++ "\" is not connected"

/-- The end of an edge at which `id` is not; the edge may also be a loop at `id`. -/
def Edge.otherEnd (e : Edge) (id : String) : String := if e.source = id then e.target else e.source

/-- What is wrong with an edge at one of its ends. -/
def Edge.complaints (e : Edge) (g : Graph) (definitions : Definitions) (id : String) :
    List String :=
  if e.otherEnd id ∉ g.ids then ["Edge " ++ e.id ++ " references a missing node"]
  else
    let output := (definitions e.source).map e.outputPin?
    let input := (definitions e.target).map e.inputPin?
    complain (e.source = id && output.any (·.isNone))
        ("Unknown output pin \"" ++ e.sourceOutput.display ++ "\" on " ++ id) ++
      (complain (e.target = id && input.any (·.isNone))
        ("Unknown input pin \"" ++ e.targetInput.display ++ "\"") ++
      if e.target = id then mismatchMessages output.join input.join else [])

instance decidableOnCycle (g : Graph) (v : String) : Decidable (Relation.TransGen g.Arc v v) :=
  decidable_of_iff _ Graph.isCyclic_iff

/-- All that is wrong with a node. -/
def Graph.complaints (g : Graph) (r : Registry) (n : Node) : List String :=
  (match r.get? n.type with
    | none => ["Unknown node type \"" ++ n.type ++ "\""]
    | some d => n.complaints d ++ n.openInputs g d) ++
  ((g.edges.filter fun e => e.source = n.id || e.target = n.id).flatMap fun e =>
    e.complaints g (r.definitionsOf g) n.id) ++
  if Relation.TransGen g.Arc n.id n.id then [cycleMessage (g.cycleOf n.id)] else []

/-- The nodes with complaints, in the order of the graph. -/
def Graph.report (g : Graph) (r : Registry) : List NodeErrors :=
  (g.nodes.map fun n => ⟨n.id, g.complaints r n⟩).filter fun entry => !entry.messages.isEmpty

/-- Nothing in a graph stops its validation. -/
structure Graph.Checkable (g : Graph) (r : Registry) : Prop where
  edges : ∀ e ∈ g.edges, ∀ fault, ¬ e.Stops g (r.definitionsOf g) fault
  values : ∀ n ∈ g.nodes, ∀ d ∈ r.definitionsOf g n.id, ∀ fault, ¬ n.Stops d fault

theorem flatMap_complain {α : Type*} (fails : α → Bool) (message : α → String) (items : List α) :
    (items.flatMap fun a => complain (fails a) (message a)) = (items.filter fails).map message := by
  induction items with
  | nil => rfl
  | cons a items ih =>
      rw [List.flatMap_cons, ih, List.filter_cons, complain]
      split <;> rfl

/-! ## Values -/

section Values

variable {n : Node} {d : NodeDefinition} {name : String} {spec : FieldSpec} {v : Value}
  {fields : List (String × FieldSpec)} {messages : List String}

theorem constraintMessages_eq_ok (h : constraintMessages name spec v = .ok messages) :
    messages = spec.complaints name v := by
  rw [constraintMessages] at h
  rw [FieldSpec.complaints]
  cases kind : spec.kind with
  | choice =>
      rw [kind] at h
      dsimp only at h ⊢
      split at h
      · rename_i options
        obtain rfl := Except.ok.inj h
        simp [choiceMessages, options, complain]
      · exact (aboutText_eq_ok_iff.mp h).2.symm
  | number =>
      rw [kind] at h
      dsimp only at h ⊢
      rw [h]
      rfl
  | boolean =>
      rw [kind] at h
      exact (Except.ok.inj h).symm
  | text | multiline =>
      rw [kind] at h
      dsimp only at h ⊢
      cases constraints : spec.constraints with
      | none =>
          rw [constraints] at h
          exact (Except.ok.inj h).symm
      | some rules =>
          rw [constraints] at h
          rw [Option.toList_some, List.flatMap_singleton]
          exact (ruledMessages_eq_ok_iff.mp h).2.2.symm

theorem messagesIfGiven_eq_ok (h : messagesIfGiven name spec v = .ok messages) :
    messages = if !v.isUnset then spec.complaints name v else [] := by
  unfold messagesIfGiven at h
  cases hunset : v.isUnset with
  | true =>
      rw [hunset] at h
      exact (Except.ok.inj h).symm
  | false =>
      rw [hunset] at h
      exact constraintMessages_eq_ok h

theorem valueMessages_eq_ok (h : valueMessages n fields = .ok messages) :
    messages = (fields.filter fun p => !(n.field p.1).isUnset).flatMap fun p =>
      p.2.complaints p.1 (n.field p.1) := by
  induction fields generalizing messages with
  | nil => exact (Except.ok.inj h).symm
  | cons p fields ih =>
      rw [valueMessages_cons] at h
      obtain ⟨own, hown, h⟩ := bind_eq_ok_iff.mp h
      obtain ⟨rest, hrest, h⟩ := bind_eq_ok_iff.mp h
      rw [← Except.ok.inj h, messagesIfGiven_eq_ok hown, ih hrest, List.filter_cons]
      split
      · rw [List.flatMap_cons]
      · rw [List.nil_append]

theorem nodeMessages_eq_ok (h : nodeMessages n d = .ok messages) : messages = n.complaints d := by
  obtain ⟨values, hvalues, h⟩ := bind_eq_ok_iff.mp h
  have hhook : hookMessages n d = (d.hook.map (·.check n)).getD [] := by
    cases hhook : d.hook <;> simp [hookMessages, hhook]
  rw [← Except.ok.inj h, valueMessages_eq_ok hvalues, hhook, requiredMessages, flatMap_complain,
    List.append_assoc]
  rfl

end Values

/-! ## Connections -/

section Connections

variable {g : Graph} {r : Registry} {definitions : Definitions} {n : Node} {id : String} {e : Edge}

theorem unconnectedMessages_eq_openInputs {d : NodeDefinition} (hd : definitions n.id = some d) :
    unconnectedMessages g definitions n.id = n.openInputs g d := by
  rw [unconnectedMessages, hd, Option.toList_some, List.flatMap_singleton, flatMap_complain]
  rfl

/-- Of an edge that ends at a node, an end is missing just if the other one is. -/
theorem otherEnd_notMem_iff (hid : id ∈ g.ids) (hend : e.source = id ∨ e.target = id) :
    e.otherEnd id ∉ g.ids ↔ ¬ (e.source ∈ g.ids ∧ e.target ∈ g.ids) := by
  unfold Edge.otherEnd
  split
  · rename_i hsource
    simp [hsource, hid]
  · rename_i hsource
    obtain rfl := hend.resolve_left hsource
    simp [hid]

theorem edgeMessages_eq_complaints (hid : id ∈ g.ids) (hend : e.source = id ∨ e.target = id) :
    edgeMessages g definitions id e = e.complaints g definitions id := by
  unfold Edge.complaints
  by_cases hknown : e.source ∈ g.ids ∧ e.target ∈ g.ids
  · rw [if_neg (mt (otherEnd_notMem_iff hid hend).mp (not_not.mpr hknown)),
      edgeMessages_of_known hknown.1 hknown.2]
    dsimp only
    congr 1
    · by_cases h : e.source = id <;> simp [h, complain]
    · by_cases h : e.target = id
      · simp [h]
      · simp [h, complain]
  · rw [if_pos ((otherEnd_notMem_iff hid hend).mpr hknown), edgeMessages_of_dangling hknown]
    have hthere : ([e.source, e.target].filter (g.ids.contains ·)).filter (· = id) = [id] := by
      rcases hend with rfl | rfl
      · have htarget : e.target ∉ g.ids := fun h => hknown ⟨hid, h⟩
        simp [hid, htarget]
      · have hsource : e.source ∉ g.ids := fun h => hknown ⟨h, hid⟩
        simp [hid, hsource]
    rw [hthere]
    rfl

theorem edgeMessages_of_not_end (hend : ¬ (e.source = id ∨ e.target = id)) :
    edgeMessages g definitions id e = [] := by
  rw [not_or] at hend
  by_cases hknown : e.source ∈ g.ids ∧ e.target ∈ g.ids
  · rw [edgeMessages_of_known hknown.1 hknown.2, if_neg hend.1, if_neg hend.2, List.append_nil]
  · rw [edgeMessages_of_dangling hknown, List.map_eq_nil_iff, List.filter_eq_nil_iff]
    intro v hv
    rcases List.mem_pair.mp (List.mem_of_mem_filter hv) with rfl | rfl
    · simpa using hend.1
    · simpa using hend.2

/-- The edges that end at a node are those that anything is said about. -/
theorem flatMap_edgeMessages (hid : id ∈ g.ids) (edges : List Edge) :
    edges.flatMap (edgeMessages g definitions id) =
      (edges.filter fun e => e.source = id || e.target = id).flatMap fun e =>
        e.complaints g definitions id := by
  induction edges with
  | nil => rfl
  | cons e edges ih =>
      rw [List.flatMap_cons, ih, List.filter_cons]
      split
      · rename_i hend
        rw [List.flatMap_cons, edgeMessages_eq_complaints hid (by simpa using hend)]
      · rename_i hend
        rw [edgeMessages_of_not_end (by simpa using hend), List.nil_append]

theorem cycleMessages_eq : cycleMessages g id =
    if Relation.TransGen g.Arc id id then [cycleMessage (g.cycleOf id)] else [] := by
  simp only [← Graph.isCyclic_iff]
  rfl

theorem connectionMessages_eq_complaints (hdistinct : g.ids.Nodup) (hn : n ∈ g.nodes) :
    connectionMessages g definitions n.id = unconnectedMessages g definitions n.id ++
      ((g.edges.filter fun e => e.source = n.id || e.target = n.id).flatMap fun e =>
        e.complaints g definitions n.id) ++
      if Relation.TransGen g.Arc n.id n.id then [cycleMessage (g.cycleOf n.id)] else [] := by
  rw [connectionMessages_eq (Graph.mem_ids_of_mem hn), filter_id_eq hdistinct hn,
    flatMap_edgeMessages (Graph.mem_ids_of_mem hn), List.flatMap_singleton, List.flatMap_singleton,
    cycleMessages_eq]

end Connections

/-! ## The whole graph -/

section Graph

variable {g : Graph} {r : Registry} {n : Node}

theorem messagesOf_eq_ok {messages : List String} (hdistinct : g.ids.Nodup) (hn : n ∈ g.nodes)
    (h : messagesOf (connectionLog g (r.definitionsOf g)) (r.definitionsOf g) n = .ok messages) :
    messages = g.complaints r n := by
  have hconnections : (connectionLog g (r.definitionsOf g)).messages n.id = _ :=
    connectionMessages_eq_complaints hdistinct hn
  have hdefinition : r.definitionsOf g n.id = r.get? n.type := definitionsOf_of_mem hdistinct hn
  unfold messagesOf at h
  unfold Graph.complaints
  rw [hconnections] at h
  cases hd : r.get? n.type with
  | none =>
      rw [hdefinition, hd] at h
      rw [← Except.ok.inj h, unconnectedMessages, hdefinition, hd, List.append_assoc,
        List.append_assoc]
      rfl
  | some d =>
      rw [hd] at hdefinition
      rw [hdefinition] at h
      obtain ⟨own, hown, h⟩ := bind_eq_ok_iff.mp h
      rw [← Except.ok.inj h, nodeMessages_eq_ok hown, unconnectedMessages_eq_openInputs hdefinition]
      simp only [List.append_assoc]

theorem errorsOf_eq_ok {errors : List NodeErrors} {nodes : List Node} (hdistinct : g.ids.Nodup)
    (hnodes : nodes ⊆ g.nodes)
    (h : errorsOf (connectionLog g (r.definitionsOf g)) (r.definitionsOf g) nodes = .ok errors) :
    errors = (nodes.map fun n => (⟨n.id, g.complaints r n⟩ : NodeErrors)).filter
      fun entry => !entry.messages.isEmpty := by
  induction nodes generalizing errors with
  | nil => exact (Except.ok.inj h).symm
  | cons n nodes ih =>
      obtain ⟨messages, hmessages, h⟩ := bind_eq_ok_iff.mp h
      obtain ⟨others, hothers, h⟩ := bind_eq_ok_iff.mp h
      rw [← Except.ok.inj h, ih (List.subset_of_cons_subset hnodes) hothers,
        messagesOf_eq_ok hdistinct (hnodes List.mem_cons_self) hmessages, List.map_cons,
        List.filter_cons]
      dsimp only
      cases (g.complaints r n).isEmpty <;> rfl

/-- What validation gives, it has from the nodes one by one. -/
theorem errorsOf_of_validate {errors : List NodeErrors} (h : validate g r = .ok errors) :
    errorsOf (connectionLog g (r.definitionsOf g)) (r.definitionsOf g) g.nodes = .ok errors := by
  unfold validate at h
  split at h
  · split at h
    · exact h
    · cases h
  · cases h

/-- Every entry is about a node, and its messages are those about the node. -/
theorem exists_messagesOf_of_mem {log : MessageLog} {definitions : Definitions}
    {nodes : List Node} {errors : List NodeErrors} {entry : NodeErrors}
    (h : errorsOf log definitions nodes = .ok errors) (hentry : entry ∈ errors) :
    ∃ n ∈ nodes, entry.node = n.id ∧ messagesOf log definitions n = .ok entry.messages := by
  induction nodes generalizing errors with
  | nil =>
      obtain rfl := Except.ok.inj h
      cases hentry
  | cons n nodes ih =>
      obtain ⟨messages, hmessages, h⟩ := bind_eq_ok_iff.mp h
      obtain ⟨others, hothers, h⟩ := bind_eq_ok_iff.mp h
      obtain rfl := Except.ok.inj h
      have hmem : entry ∈ others ∨ entry = ⟨n.id, messages⟩ := by
        split at hentry
        · exact .inl hentry
        · exact (List.mem_cons.mp hentry).symm
      rcases hmem with hmem | rfl
      · obtain ⟨k, hk, hnode⟩ := ih hothers hmem
        exact ⟨k, List.mem_cons_of_mem n hk, hnode⟩
      · exact ⟨n, List.mem_cons_self, rfl, hmessages⟩

theorem report_of_validate {errors : List NodeErrors} (hdistinct : g.ids.Nodup)
    (h : validate g r = .ok errors) : errors = g.report r :=
  errorsOf_eq_ok hdistinct (List.Subset.refl _) (errorsOf_of_validate h)

/-- With distinct ids, validation gives the report on a graph unless something in it cannot be
checked, and nothing else. -/
theorem validate_eq_ok_iff (hdistinct : g.ids.Nodup) (errors : List NodeErrors) :
    validate g r = .ok errors ↔ g.Checkable r ∧ errors = g.report r := by
  constructor
  · intro h
    obtain ⟨hedges, hvalues⟩ := exists_validate_iff.mp ⟨errors, h⟩
    exact ⟨⟨hedges, hvalues⟩, report_of_validate hdistinct h⟩
  · rintro ⟨⟨hedges, hvalues⟩, rfl⟩
    obtain ⟨errors, h⟩ := exists_validate_iff.mpr ⟨hedges, hvalues⟩
    rw [h, report_of_validate hdistinct h]

end Graph

/-! ## A graph with most of the faults -/

/-- A constant without its number is connected to the wrong input of a node that is connected to
itself, by pins that it does not have, and to a node that is missing. -/
def tangled : Graph where
  nodes := [⟨"a", "Constant", .origin, []⟩, ⟨"b", "Print", .origin, []⟩, ⟨"c", "Sum", .origin, []⟩,
    ⟨"d", "Constant", .origin, [(.text "value", .int 2)]⟩]
  edges := [⟨"wrong", "a", .text "value", "b", .text "format"⟩,
    ⟨"loop", "b", .text "out", "b", .text "in"⟩, ⟨"open", "b", .text "out", "x", .text "in"⟩]

def tangledReport : List NodeErrors :=
  [⟨"a", ["Field \"value\" is required"]⟩,
    ⟨"b", ["Required input \"value\" is not connected",
      "Type mismatch: cannot connect f64 to String", "Unknown output pin \"out\" on b",
      "Unknown input pin \"in\"", "Edge open references a missing node",
      "Node is part of a cycle: b -> b"]⟩,
    ⟨"c", ["Unknown node type \"Sum\""]⟩]

/-- The faults of each node stand together, each at its node. -/
theorem tangled_reported :
    tangled.ids.Nodup ∧ validate tangled numberTypes = .ok tangledReport ∧
      tangled.Checkable numberTypes ∧ tangledReport = tangled.report numberTypes := by
  have hdistinct : tangled.ids.Nodup := by decide
  have hvalidate : validate tangled numberTypes = .ok tangledReport := by decide +kernel
  exact ⟨hdistinct, hvalidate, (validate_eq_ok_iff hdistinct tangledReport).mp hvalidate⟩

/-! ## A text that is too long to be compared -/

/-- A text of at most five characters. -/
def labelField : FieldSpec :=
  ⟨.text, "Text", none, [], .null, false, some ⟨none, none, none, some 5, none⟩⟩

def labelType : NodeDefinition where
  name := "Label"
  category := "Notes"
  description := "A short text"
  fields := .ofPairs [("text", labelField)]
  pins := .empty
  template := ""
  hook := none

def labelTypes : Registry := Registry.empty.add labelType

def labelNode (v : Value) : Node := ⟨"a", "Label", .origin, [(.text "text", v)]⟩

def labelled (v : Value) : Graph := ⟨[labelNode v], []⟩

theorem labelNode_field (v : Value) : (labelNode v).field "text" = v := by
  simp [labelNode, Node.field, Value.field?, Value.lookup, Value.eqv]

theorem lt_length_display {n : ℕ} (h : (Value.int n).isWritable = false) :
    Value.digitLimit < (Value.int n).display.length := by
  have hdigits : ¬ (Nat.toDigits 10 n).length ≤ Value.digitLimit := of_decide_eq_false h
  have hdisplay : (Value.int n).display = toString n := rfl
  rw [hdisplay, ← String.length_toList, toList_toString]
  exact not_le.mp hdigits

theorem complaints_labelNode {n : ℕ} (h : 5 < (Value.int n).display.length) :
    (labelNode (.int n)).complaints labelType =
      ["Field \"text\" must be at most 5 characters"] := by
  have hentries : labelType.fields.entries = [("text", labelField)] := rfl
  have hlong : (5 : ℤ) < (Value.int n).display.length := by exact_mod_cast h
  have hmessage : fieldLabel "text" ++ "must be at most " ++ toString (5 : ℤ) ++ " characters" =
      "Field \"text\" must be at most 5 characters" := by decide
  rw [Node.complaints, hentries]
  simp [labelNode_field, labelType, labelField, Value.isUnset, FieldSpec.complaints, textMessages,
    complain, hlong, ← hmessage]

theorem complaints_labelled {n : ℕ} (h : 5 < (Value.int n).display.length) :
    (labelled (.int n)).complaints labelTypes (labelNode (.int n)) =
      ["Field \"text\" must be at most 5 characters"] := by
  have hnone : ¬ Relation.TransGen (labelled (.int n)).Arc (labelNode (.int n)).id
      (labelNode (.int n)).id := by
    intro hcycle
    obtain ⟨_, ⟨_, he, _⟩, _⟩ := Relation.TransGen.head'_iff.mp hcycle
    cases he
  have htype : labelTypes.get? (labelNode (.int n)).type = some labelType := rfl
  have hinputs : (labelNode (.int n)).openInputs (labelled (.int n)) labelType = [] := rfl
  rw [Graph.complaints, htype]
  dsimp only
  rw [complaints_labelNode h, hinputs, if_neg hnone]
  rfl

theorem validate_labelled {n : ℕ} (h : (Value.int n).isWritable = false) :
    validate (labelled (.int n)) labelTypes = .error .wrongShape := by
  have hstops : labelField.Stops (.int n) .wrongShape := .text (.inl rfl) (by simp [labelField]) h
  have hfield : messagesIfGiven "text" labelField ((labelNode (.int n)).field "text") =
      .error .wrongShape := by
    rw [labelNode_field, messagesIfGiven_eq_error_iff]
    exact ⟨by simp [Value.Given], hstops⟩
  have hvalues : valueMessages (labelNode (.int n)) [("text", labelField)] =
      .error .wrongShape := by
    rw [valueMessages_cons, hfield]
    rfl
  have hnode : nodeMessages (labelNode (.int n)) labelType = .error .wrongShape :=
    bind_eq_error_iff.mpr (.inl hvalues)
  have hmessages (log : MessageLog) :
      messagesOf log (labelTypes.definitionsOf (labelled (.int n))) (labelNode (.int n)) =
        .error .wrongShape := bind_eq_error_iff.mpr (.inl hnode)
  have hedges : (labelled (.int n)).edges = [] := rfl
  rw [validate, hedges, List.all_nil, List.all_nil, if_pos rfl, if_pos rfl]
  exact bind_eq_error_iff.mpr (.inl (hmessages _))

/-- An integer of too many digits is longer than the text may be, but the validation fails. -/
theorem longLabel_not_reported :
    (labelled tooLong).ids.Nodup ∧ validate (labelled tooLong) labelTypes = .error .wrongShape ∧
      (labelled tooLong).report labelTypes =
        [⟨"a", ["Field \"text\" must be at most 5 characters"]⟩] := by
  have hlong := lt_length_display not_isWritable_tooLong
  have hcomplaints := complaints_labelled (lt_trans (by decide) hlong)
  have hreport : (labelled tooLong).report labelTypes =
      [(⟨"a", (labelled tooLong).complaints labelTypes (labelNode tooLong)⟩ : NodeErrors)].filter
        fun entry => !entry.messages.isEmpty := rfl
  refine ⟨by decide, validate_labelled not_isWritable_tooLong, ?_⟩
  rw [hreport, tooLong, hcomplaints]
  rfl

end NodeGraph
