import NodeGraph.Proofs.Lines
import NodeGraph.Proofs.Number.Reading
import NodeGraph.Proofs.Validation.Reports

/-!
# Messages on one line

Every message is on one line if the texts that messages quote are: the ids, types and pins of a
graph, what the definitions of its types call their fields, options, patterns and pins, and what the
hooks say. Numbers always are. The values of fields are quoted by hooks only.
-/

namespace NodeGraph

open LineBreaks (free_append free_of_isPrintableAscii free_intercalate)

variable {b : LineBreaks} {m name : String}

/-! ## What messages quote -/

/-- The texts of a field that messages quote are on one line. -/
structure FieldSpec.Unbroken (spec : FieldSpec) (b : LineBreaks) : Prop where
  options : ∀ option ∈ spec.options, b.Free option
  pattern : ∀ rules ∈ spec.constraints, ∀ pattern ∈ rules.pattern, b.Free pattern.source

/-- The same for all texts of a type. -/
structure NodeDefinition.Unbroken (d : NodeDefinition) (b : LineBreaks) : Prop where
  names : ∀ p ∈ d.fields.entries, b.Free p.1
  specs : ∀ p ∈ d.fields.entries, p.2.Unbroken b
  inputs : ∀ pin ∈ d.pins.inputs, b.Free pin.name ∧ b.Free pin.type
  outputs : ∀ pin ∈ d.pins.outputs, b.Free pin.type

/-- The same for an edge. -/
structure Edge.Unbroken (e : Edge) (b : LineBreaks) : Prop where
  id : b.Free e.id
  output : b.Free e.sourceOutput.display
  input : b.Free e.targetInput.display

/-- The same for a graph with the types of its nodes, and for what the hooks say about them. -/
structure Graph.Unbroken (g : Graph) (r : Registry) (b : LineBreaks) : Prop where
  vertices : ∀ v ∈ g.vertices, b.Free v
  types : ∀ n ∈ g.nodes, b.Free n.type
  edges : ∀ e ∈ g.edges, e.Unbroken b
  definitions : ∀ n ∈ g.nodes, ∀ d ∈ r.get? n.type, d.Unbroken b
  hooks : ∀ n ∈ g.nodes, ∀ d ∈ r.definitionsOf g n.id, ∀ hook ∈ d.hook, ∀ m ∈ hook.check n,
    b.Free m

/-! ## Numbers -/

theorem free_of_subset_numberChars {s : String} (h : s.toList ⊆ numberChars) : b.Free s := by
  have hall : ∀ c ∈ numberChars, ' ' ≤ c ∧ c ≤ '~' := List.all_iff_forall_prop.mp (by decide)
  intro c hc
  obtain ⟨hlow, hhigh⟩ := hall c (h hc)
  exact b.printable c hlow hhigh

theorem free_toString (n : ℤ) : b.Free (toString n) := by
  refine free_of_subset_numberChars ?_
  rw [toList_toString_int]
  exact signed_subset (Numeral.toDigits _).subset

theorem free_text (x : Double) : b.Free x.text := by
  cases x with
  | nan => exact free_of_isPrintableAscii rfl
  | infinity negative => cases negative <;> exact free_of_isPrintableAscii rfl
  | finite negative mantissa exponent =>
      refine free_of_subset_numberChars ?_
      rw [Double.text, String.toList_ofList]
      refine signed_subset ?_
      split
      · decide
      · dsimp only
        rw [toList_toString]
        exact layout_subset (Numeral.toDigits _) Nat.toDigits_ne_nil _

theorem free_boundText (x : Double) : b.Free (boundText x) := by
  unfold boundText
  split
  · exact free_toString _
  · exact free_text x

/-! ## Fields -/

theorem free_fieldLabel (h : b.Free name) : b.Free (fieldLabel name) := by
  simp (disch := decide) only [fieldLabel, free_append, free_of_isPrintableAscii, h, and_self]

section Field

variable {spec : FieldSpec} {v : Value}

theorem free_of_mem_choiceMessages (hname : b.Free name) (hspec : spec.Unbroken b)
    (hm : m ∈ choiceMessages name spec v) : b.Free m := by
  rw [mem_complain hm]
  simp (disch := decide) only [free_append, free_of_isPrintableAscii, free_fieldLabel hname,
    true_and]
  exact free_intercalate (free_of_isPrintableAscii rfl) hspec.options

theorem free_of_mem_numberMessages {messages : List String} (hname : b.Free name)
    (h : numberMessages name spec v = .ok messages) (hm : m ∈ messages) : b.Free m := by
  obtain ⟨number, _, h⟩ := bind_eq_ok_iff.mp h
  cases number with
  | none =>
      obtain rfl := Except.ok.inj h
      rw [List.mem_singleton.mp hm]
      simp (disch := decide) only [free_append, free_of_isPrintableAscii, free_fieldLabel hname,
        and_self]
  | some x =>
      obtain rfl := Except.ok.inj h
      rcases List.mem_append.mp hm with hm | hm <;>
        obtain ⟨bound, _, hm⟩ := List.mem_flatMap.mp hm <;>
        rw [mem_complain hm] <;>
        simp (disch := decide) only [free_append, free_of_isPrintableAscii, free_fieldLabel hname,
          free_boundText, and_self]

theorem free_of_mem_textMessages {rules : Constraints} (hname : b.Free name)
    (hpattern : ∀ pattern ∈ rules.pattern, b.Free pattern.source)
    (hm : m ∈ textMessages name rules v) : b.Free m := by
  rcases List.mem_append.mp hm with hm | hm
  · rcases List.mem_append.mp hm with hm | hm <;>
      obtain ⟨bound, _, hm⟩ := List.mem_flatMap.mp hm <;>
      rw [mem_complain hm] <;>
      simp (disch := decide) only [free_append, free_of_isPrintableAscii, free_fieldLabel hname,
        free_toString, and_self]
  · obtain ⟨pattern, hmem, hm⟩ := List.mem_flatMap.mp hm
    rw [mem_complain hm]
    simp (disch := decide) only [free_append, free_of_isPrintableAscii, free_fieldLabel hname,
      hpattern pattern (Option.mem_toList.mp hmem), and_self]

theorem free_of_mem_fieldComplaints (hname : b.Free name) (hspec : spec.Unbroken b)
    (hm : m ∈ spec.complaints name v) : b.Free m := by
  unfold FieldSpec.complaints at hm
  split at hm
  · exact free_of_mem_choiceMessages hname hspec hm
  · cases hnumber : numberMessages name spec v with
    | error fault => simp [hnumber, Except.toOption] at hm
    | ok messages =>
        rw [hnumber] at hm
        exact free_of_mem_numberMessages hname hnumber hm
  · cases hm
  all_goals
    obtain ⟨rules, hrules, hm⟩ := List.mem_flatMap.mp hm
    exact free_of_mem_textMessages hname (hspec.pattern rules (Option.mem_toList.mp hrules)) hm

end Field

/-! ## Hooks -/

section Hook

variable {n : Node}

theorem free_fieldText (h : b.Free (n.field name).display) : b.Free (Hook.fieldText n name) := by
  unfold Hook.fieldText
  dsimp only
  split
  · exact h
  · exact free_of_isPrintableAscii rfl

theorem free_of_mem_identifierMessages (hname : b.Free (n.field "name").display)
    (hm : m ∈ Hook.identifierMessages n) : b.Free m := by
  have htext := free_fieldText hname
  unfold Hook.identifierMessages at hm
  dsimp only at hm
  split at hm
  · cases hm
  split at hm
  · rw [List.mem_singleton.mp hm]
    simp (disch := decide) only [free_append, free_of_isPrintableAscii, htext, and_self]
  split at hm
  · rw [List.mem_singleton.mp hm]
    simp (disch := decide) only [free_append, free_of_isPrintableAscii, htext, and_self]
  · cases hm

theorem free_literalText {v : Value} (h : b.Free v.display) : b.Free (Hook.literalText v) := by
  unfold Hook.literalText
  split
  · split <;> exact free_of_isPrintableAscii rfl
  · exact h

theorem free_of_mem_literalMessages (htype : b.Free (n.field "type").display)
    (hvalue : b.Free (n.field "value").display) (hm : m ∈ Hook.literalMessages n) : b.Free m := by
  unfold Hook.literalMessages at hm
  dsimp only at hm
  split at hm
  · cases hm
  · cases hm
  · cases hm
  split at hm
  · cases hm
  · rw [List.mem_singleton.mp hm]
    simp (disch := decide) only [free_append, free_of_isPrintableAscii, htype,
      free_literalText hvalue, and_self]

/-- The hooks that are there from the start quote three fields. -/
theorem free_of_mem_builtin {hook : Hook} (hbuiltin : hook = .identifier ∨ hook = .typedLiteral)
    (hfields : ∀ name ∈ ["name", "type", "value"], b.Free (n.field name).display)
    (hm : m ∈ hook.check n) : b.Free m := by
  have hname := hfields "name" (by decide)
  rcases hbuiltin with rfl | rfl
  · exact free_of_mem_identifierMessages hname hm
  · rcases List.mem_append.mp hm with hm | hm
    · exact free_of_mem_identifierMessages hname hm
    · have htype := hfields "type" (by decide)
      exact free_of_mem_literalMessages htype (hfields "value" (by decide)) hm

end Hook

/-! ## Nodes -/

section Node

variable {g : Graph} {r : Registry} {n : Node} {d : NodeDefinition} {e : Edge}

theorem Graph.Unbroken.definition {id : String} (h : g.Unbroken r b)
    (hd : r.definitionsOf g id = some d) : d.Unbroken b := by
  obtain ⟨n, hn, hd⟩ := Option.bind_eq_some_iff.mp hd
  exact h.definitions n (Graph.mem_of_node? hn).1 d hd

theorem free_of_mem_nodeComplaints (hd : d.Unbroken b)
    (hhook : ∀ hook ∈ d.hook, ∀ m ∈ hook.check n, b.Free m) (hm : m ∈ n.complaints d) :
    b.Free m := by
  rcases List.mem_append.mp hm with hm | hm
  · obtain ⟨p, hp, rfl⟩ := List.mem_map.mp hm
    have hname := hd.names p (List.mem_of_mem_filter hp)
    simp (disch := decide) only [free_append, free_of_isPrintableAscii, free_fieldLabel hname,
      and_self]
  rcases List.mem_append.mp hm with hm | hm
  · cases hcheck : d.hook with
    | none => simp [hcheck] at hm
    | some hook =>
        rw [hcheck] at hm
        exact hhook hook hcheck m hm
  · obtain ⟨p, hp, hm⟩ := List.mem_flatMap.mp hm
    have hp := List.mem_of_mem_filter hp
    exact free_of_mem_fieldComplaints (hd.names p hp) (hd.specs p hp) hm

theorem free_of_mem_unconnected {id : String} (h : g.Unbroken r b)
    (hm : m ∈ unconnectedMessages g (r.definitionsOf g) id) : b.Free m := by
  obtain ⟨d, hd, hm⟩ := List.mem_flatMap.mp hm
  obtain ⟨pin, hpin, hm⟩ := List.mem_flatMap.mp hm
  have hname := ((h.definition (Option.mem_toList.mp hd)).inputs pin hpin).1
  rw [mem_complain hm]
  simp (disch := decide) only [free_append, free_of_isPrintableAscii, hname,
    and_self]

theorem free_of_mem_mismatch {output input : Option Pin}
    (houtput : ∀ pin ∈ output, b.Free pin.type) (hinput : ∀ pin ∈ input, b.Free pin.type)
    (hm : m ∈ mismatchMessages output input) : b.Free m := by
  unfold mismatchMessages at hm
  split at hm
  · rw [mem_complain hm]
    simp (disch := decide) only [free_append, free_of_isPrintableAscii, houtput _ rfl,
      hinput _ rfl, and_self]
  · cases hm

theorem free_of_mem_edgeRemarks {remark : Remark} (h : g.Unbroken r b) (he : e ∈ g.edges)
    (hremark : remark ∈ edgeRemarks g (r.definitionsOf g) e) : b.Free remark.message := by
  have hedge := h.edges e he
  have hsource := h.vertices e.source (Graph.mem_vertices.mpr (.inr ⟨e, he, .inl rfl⟩))
  unfold edgeRemarks at hremark
  dsimp only at hremark
  split at hremark
  · obtain ⟨v, _, rfl⟩ := List.mem_map.mp hremark
    simp (disch := decide) only [free_append, free_of_isPrintableAscii, hedge.id,
      and_self]
  rcases List.mem_append.mp hremark with hremark | hremark
  · obtain ⟨m, hm, rfl⟩ := List.mem_map.mp hremark
    rw [mem_complain hm]
    simp (disch := decide) only [free_append, free_of_isPrintableAscii, hedge.output, hsource,
      and_self]
  obtain ⟨m, hm, rfl⟩ := List.mem_map.mp hremark
  rcases List.mem_append.mp hm with hm | hm
  · rw [mem_complain hm]
    simp (disch := decide) only [free_append, free_of_isPrintableAscii, hedge.input, and_self]
  · refine free_of_mem_mismatch (fun pin hpin => ?_) (fun pin hpin => ?_) hm
    · obtain ⟨d, hd, hpin⟩ := Option.map_eq_some_iff.mp (Option.join_eq_some_iff.mp hpin)
      exact (h.definition hd).outputs pin (Edge.outputPin?_eq_some_iff.mp hpin).1
    · obtain ⟨d, hd, hpin⟩ := Option.map_eq_some_iff.mp (Option.join_eq_some_iff.mp hpin)
      exact ((h.definition hd).inputs pin (Edge.inputPin?_eq_some_iff.mp hpin).1).2

theorem free_of_mem_cycleMessages {id : String} (h : g.Unbroken r b) (hid : id ∈ g.ids)
    (hm : m ∈ cycleMessages g id) : b.Free m := by
  rw [cycleMessages_eq] at hm
  split at hm
  · rename_i hcycle
    rw [List.mem_singleton.mp hm, cycleMessage, free_append]
    refine ⟨free_of_isPrintableAscii rfl, free_intercalate
      (free_of_isPrintableAscii rfl) fun v hv => h.vertices v ?_⟩
    -- what is joined to the node and not the node itself is the end of an arc
    rcases (((Graph.isCycle_cycleOf hid hcycle).2 v hv).1).cases_tail with rfl | ⟨w, _, harc⟩
    · exact Graph.mem_vertices.mpr (.inl hid)
    · exact harc.target_mem
  · cases hm

theorem free_of_mem_connectionMessages (h : g.Unbroken r b) (hn : n ∈ g.nodes)
    (hm : m ∈ connectionMessages g (r.definitionsOf g) n.id) : b.Free m := by
  have hid : n.id ∈ g.ids := Graph.mem_ids_of_mem hn
  rw [connectionMessages_eq hid] at hm
  rcases List.mem_append.mp hm with hm | hm
  · rcases List.mem_append.mp hm with hm | hm
    · obtain ⟨_, _, hm⟩ := List.mem_flatMap.mp hm
      exact free_of_mem_unconnected h hm
    · obtain ⟨e, he, hm⟩ := List.mem_flatMap.mp hm
      obtain ⟨remark, hremark, _, rfl⟩ := mem_messagesFor.mp hm
      exact free_of_mem_edgeRemarks h he hremark
  · obtain ⟨_, _, hm⟩ := List.mem_flatMap.mp hm
    exact free_of_mem_cycleMessages h hid hm

theorem free_of_mem_messagesOf {messages : List String} (h : g.Unbroken r b) (hn : n ∈ g.nodes)
    (hmessages : messagesOf (connectionLog g (r.definitionsOf g)) (r.definitionsOf g) n =
      .ok messages) (hm : m ∈ messages) : b.Free m := by
  unfold messagesOf at hmessages
  split at hmessages
  · obtain rfl := Except.ok.inj hmessages
    rcases List.mem_append.mp hm with hm | hm
    · rw [List.mem_singleton.mp hm]
      simp (disch := decide) only [free_append, free_of_isPrintableAscii, h.types n hn, and_self]
    · exact free_of_mem_connectionMessages h hn hm
  · rename_i d hd
    obtain ⟨own, hown, hmessages⟩ := bind_eq_ok_iff.mp hmessages
    obtain rfl := Except.ok.inj hmessages
    obtain rfl := nodeMessages_eq_ok hown
    rcases List.mem_append.mp hm with hm | hm
    · exact free_of_mem_nodeComplaints (h.definition hd) (h.hooks n hn d hd) hm
    · exact free_of_mem_connectionMessages h hn hm

/-- All that validation says of a graph whose texts are on one line is on one line. -/
theorem free_of_validate {errors : List NodeErrors} {entry : NodeErrors} (h : g.Unbroken r b)
    (hvalidate : validate g r = .ok errors) (hentry : entry ∈ errors) :
    b.Free entry.node ∧ ∀ m ∈ entry.messages, b.Free m := by
  obtain ⟨n, hn, hnode, hmessages⟩ :=
    exists_messagesOf_of_mem (errorsOf_of_validate hvalidate) hentry
  refine ⟨?_, fun m hm => free_of_mem_messagesOf h hn hmessages hm⟩
  rw [hnode]
  exact h.vertices n.id (Graph.mem_vertices.mpr (.inl (Graph.mem_ids_of_mem hn)))

end Node

end NodeGraph
