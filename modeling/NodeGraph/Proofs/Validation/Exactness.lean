import NodeGraph.Proofs.Validation.Connections
import NodeGraph.Proofs.Validation.Fields
import NodeGraph.Proofs.Wiring

/-!
# Validation is exact

`Graph.Valid` says what a graph has to satisfy without any messages: its nodes have registered types
and acceptable values, its required inputs are connected, its edges fit the pins at their ends, and
no path of edges leads in a circle. A graph gets no messages exactly when it is valid.

The messages are collected node by node, those about an edge at both of its ends. So the proof goes
from the graph to one node, from there to the three sources of messages, and back to the edges by
looking at each edge from its two end nodes.
-/

namespace NodeGraph

/-! ## Valid graphs -/

/-- What a definition asks of a node by itself. -/
structure Node.Valid (le : Double → Double → Prop) (n : Node) (d : NodeDefinition) : Prop where
  required : ∀ p ∈ d.fields.entries, p.2.required = true → ¬ (n.field p.1).Missing
  hook : ∀ hook ∈ d.hook, hook.check n = []
  values : ∀ p ∈ d.fields.entries, (n.field p.1).Given → p.2.Accepts le (n.field p.1)

structure Graph.Valid (le : Double → Double → Prop) (g : Graph) (r : Registry) : Prop where
  registered : ∀ n ∈ g.nodes, ∃ d, r.get? n.type = some d
  nodes : ∀ n ∈ g.nodes, ∀ d ∈ r.get? n.type, n.Valid le d
  inputs : ∀ n ∈ g.nodes, ∀ d ∈ r.get? n.type, ∀ pin ∈ d.pins.inputs, pin.isOptional = false →
    ∃ e ∈ g.edges, e.EndsIn n.id pin.name
  wires : ∀ e ∈ g.edges, ∃ m ∈ g.nodes, ∃ n ∈ g.nodes, m.id = e.source ∧ n.id = e.target ∧
    ∃ source ∈ r.get? m.type, ∃ target ∈ r.get? n.type, e.Fits source target
  acyclic : g.Acyclic

/-- No field of a node holds not-a-number against a bound. -/
def Graph.Comparable (g : Graph) (r : Registry) : Prop :=
  ∀ n ∈ g.nodes, ∀ d ∈ r.get? n.type, ∀ p ∈ d.fields.entries, p.2.Comparable (n.field p.1)

/-! ## One node -/

section Node

variable {n : Node} {d : NodeDefinition}

theorem requiredMessages_eq_nil_iff :
    requiredMessages n d = [] ↔
      ∀ p ∈ d.fields.entries, p.2.required = true → ¬ (n.field p.1).Missing := by
  simp only [requiredMessages, List.flatMap_eq_nil_iff, complain_eq_nil_iff, ← Value.isEmpty_iff]
  refine forall_congr' fun p => imp_congr_right fun _ => ?_
  cases p.2.required <;> simp

theorem hookMessages_eq_nil_iff :
    hookMessages n d = [] ↔ ∀ hook ∈ d.hook, hook.check n = [] := toList_flatMap_eq_nil_iff

theorem valueMessages_eq_nil_iff {fields : List (String × FieldSpec)} :
    valueMessages n fields = .ok [] ↔ ∀ p ∈ fields, (n.field p.1).Given →
      p.2.Accepts Double.NotAbove (n.field p.1) := by
  induction fields with
  | nil => simp [valueMessages]
  | cons p fields ih =>
      obtain ⟨name, spec⟩ := p
      rw [List.forall_mem_cons, ← ih]
      rw [valueMessages, ← Value.isUnset_eq_false_iff]
      cases (n.field name).isUnset with
      | true => simp
      | false =>
          simp only [Bool.false_eq_true, if_false, forall_const, bind_eq_ok_iff, pure_eq_ok_iff]
          constructor
          · rintro ⟨own, hown, rest, hrest, hnil⟩
            obtain ⟨rfl, rfl⟩ := List.append_eq_nil_iff.mp hnil
            exact ⟨constraintMessages_eq_nil_iff.mp hown, hrest⟩
          · rintro ⟨hown, hrest⟩
            exact ⟨[], constraintMessages_eq_nil_iff.mpr hown, [], hrest, rfl⟩

theorem nodeMessages_eq_nil_iff :
    nodeMessages n d = .ok [] ↔ n.Valid Double.NotAbove d := by
  simp only [nodeMessages, bind_eq_ok_iff, pure_eq_ok_iff, List.append_eq_nil_iff]
  constructor
  · rintro ⟨values, hvalues, ⟨hrequired, hhook⟩, rfl⟩
    exact ⟨requiredMessages_eq_nil_iff.mp hrequired, hookMessages_eq_nil_iff.mp hhook,
      valueMessages_eq_nil_iff.mp hvalues⟩
  · rintro ⟨hrequired, hhook, hvalues⟩
    exact ⟨[], valueMessages_eq_nil_iff.mpr hvalues,
      ⟨requiredMessages_eq_nil_iff.mpr hrequired, hookMessages_eq_nil_iff.mpr hhook⟩, rfl⟩

theorem Node.valid_iff_of_comparable
    (h : ∀ p ∈ d.fields.entries, p.2.Comparable (n.field p.1)) :
    n.Valid Double.NotAbove d ↔ n.Valid Double.Le d := by
  constructor
  · rintro ⟨hrequired, hhook, hvalues⟩
    exact ⟨hrequired, hhook, fun p hp hgiven => (h p hp).accepts_iff.mp (hvalues p hp hgiven)⟩
  · rintro ⟨hrequired, hhook, hvalues⟩
    exact ⟨hrequired, hhook, fun p hp hgiven => (h p hp).accepts_iff.mpr (hvalues p hp hgiven)⟩

end Node

/-! ## Connections -/

section Connections

variable {g : Graph} {definitions : Definitions} {id : String} {e : Edge}

theorem unconnectedMessages_eq_nil_iff {d : NodeDefinition} (hd : definitions id = some d) :
    unconnectedMessages g definitions id = [] ↔ ∀ pin ∈ d.pins.inputs, pin.isOptional = false →
      ∃ e ∈ g.edges, e.EndsIn id pin.name := by
  simp only [unconnectedMessages, hd, Option.toList_some, List.flatMap_singleton,
    List.flatMap_eq_nil_iff, complain_eq_nil_iff, ← Graph.isConnected_iff]
  refine forall_congr' fun pin => imp_congr_right fun _ => ?_
  cases pin.isOptional <;> simp

/-- What the messages about an edge at the node `id` depend on, its ends being there. -/
theorem edgeMessages_eq_nil_iff {source target : NodeDefinition} (hsource : e.source ∈ g.ids)
    (htarget : e.target ∈ g.ids) (hs : definitions e.source = some source)
    (ht : definitions e.target = some target) :
    edgeMessages g definitions id e = [] ↔
      (e.source = id → (e.outputPin? source).isSome) ∧
      (e.target = id → (e.inputPin? target).isSome ∧ ∀ output ∈ e.outputPin? source,
        ∀ input ∈ e.inputPin? target, output.type = input.type) := by
  simp only [edgeMessages_of_known hsource htarget, hs, ht, Option.map_some, Option.join_some]
  by_cases hatSource : e.source = id <;> by_cases hatTarget : e.target = id <;>
    cases e.outputPin? source <;> cases e.inputPin? target <;>
    simp [hatSource, hatTarget, mismatchMessages]

/-- An edge without messages at its two ends fits the definitions there, and the other way round. -/
theorem edgeMessages_eq_nil_iff_fits {source target : NodeDefinition} (hsource : e.source ∈ g.ids)
    (htarget : e.target ∈ g.ids) (hs : definitions e.source = some source)
    (ht : definitions e.target = some target) :
    (∀ id ∈ g.ids, edgeMessages g definitions id e = []) ↔ e.Fits source target := by
  simp only [edgeMessages_eq_nil_iff hsource htarget hs ht, Edge.fits_iff]
  constructor
  · intro h
    obtain ⟨output, houtput⟩ := Option.isSome_iff_exists.mp ((h _ hsource).1 rfl)
    obtain ⟨hsome, htype⟩ := (h _ htarget).2 rfl
    obtain ⟨input, hinput⟩ := Option.isSome_iff_exists.mp hsome
    exact ⟨output, input, houtput, hinput, htype output houtput input hinput⟩
  · rintro ⟨output, input, houtput, hinput, htype⟩ id _
    simp [houtput, hinput, htype]

/-- Where nothing is said about an edge, nothing has to be written. -/
theorem edgeIsWritable_of_messages (h : ∀ id ∈ g.ids, edgeMessages g definitions id e = []) :
    edgeIsWritable g definitions e = true := by
  unfold edgeIsWritable
  dsimp only
  split
  · rfl
  · rename_i hknown
    have hends : e.source ∈ g.ids ∧ e.target ∈ g.ids := by simpa using hknown
    have hsource := h e.source hends.1
    have htarget := h e.target hends.2
    simp only [edgeMessages_of_known hends.1 hends.2, if_true, List.append_eq_nil_iff,
      complain_eq_nil_iff] at hsource htarget
    simp [hsource.1, htarget.2.1]

theorem connectionMessages_eq_nil_iff {n : Node} (hn : n ∈ g.nodes) :
    connectionMessages g definitions n.id = [] ↔
      unconnectedMessages g definitions n.id = [] ∧
      (∀ e ∈ g.edges, edgeMessages g definitions n.id e = []) ∧ g.isCyclic n.id = false := by
  have hsame : n ∈ g.nodes.filter (·.id = n.id) := by simp [hn]
  simp only [connectionMessages_eq (Graph.mem_ids_of_mem hn), cycleMessages,
    List.append_eq_nil_iff, List.flatMap_eq_nil_iff, complain_eq_nil_iff, and_assoc]
  constructor
  · rintro ⟨hinputs, hedges, hcycle⟩
    exact ⟨hinputs n hsame, hedges, hcycle n hsame⟩
  · rintro ⟨hinputs, hedges, hcycle⟩
    exact ⟨fun _ _ => hinputs, hedges, fun _ _ => hcycle⟩

end Connections

/-! ## The whole graph -/

section Graph

variable {g : Graph} {r : Registry}

theorem definitionsOf_of_mem {n : Node} (hdistinct : g.ids.Nodup) (hn : n ∈ g.nodes) :
    r.definitionsOf g n.id = r.get? n.type := by
  simp [Registry.definitionsOf, Graph.node?_of_mem hdistinct hn]

theorem messagesOf_eq_nil_iff {log : MessageLog} {n : Node} :
    messagesOf log definitions n = .ok [] ↔ ∃ d, definitions n.id = some d ∧
      n.Valid Double.NotAbove d ∧ log.messages n.id = [] := by
  unfold messagesOf
  cases hd : definitions n.id with
  | none => simp
  | some d =>
      simp only [bind_eq_ok_iff, pure_eq_ok_iff, List.append_eq_nil_iff, Option.some.injEq,
        exists_eq_left', ← nodeMessages_eq_nil_iff]
      constructor
      · rintro ⟨own, hown, rfl, hconnections⟩
        exact ⟨hown, hconnections⟩
      · rintro ⟨hown, hconnections⟩
        exact ⟨[], hown, rfl, hconnections⟩

theorem errorsOf_eq_nil_iff {log : MessageLog} {nodes : List Node} :
    errorsOf log definitions nodes = .ok [] ↔
      ∀ n ∈ nodes, messagesOf log definitions n = .ok [] := by
  induction nodes with
  | nil => simp [errorsOf]
  | cons n nodes ih =>
      rw [List.forall_mem_cons, ← ih]
      simp only [errorsOf, bind_eq_ok_iff, pure_eq_ok_iff]
      constructor
      · rintro ⟨messages, hmessages, others, hothers, hnil⟩
        cases messages with
        | nil => exact ⟨hmessages, hnil ▸ hothers⟩
        | cons _ _ => cases hnil
      · rintro ⟨hmessages, hothers⟩
        exact ⟨[], hmessages, [], hothers, rfl⟩

/-- A path back to its start begins at a node when edges end at nodes only. -/
theorem acyclic_iff (hends : ∀ e ∈ g.edges, e.source ∈ g.ids ∧ e.target ∈ g.ids) :
    g.Acyclic ↔ ∀ n ∈ g.nodes, g.isCyclic n.id = false := by
  simp only [← Bool.not_eq_true, Graph.isCyclic_iff]
  constructor
  · intro h n _
    exact h n.id
  · intro h v hcycle
    obtain ⟨w, ⟨e, he, hsource, _⟩, _⟩ := Relation.TransGen.head'_iff.mp hcycle
    obtain ⟨n, hn, hid⟩ := Graph.mem_ids.mp (hends e he).1
    exact h n hn ((hid.trans hsource) ▸ hcycle)

/-- With distinct ids and edges between nodes, all messages are absent just if the graph is valid. -/
theorem errorsOf_nodes_eq_nil_iff (hdistinct : g.ids.Nodup)
    (hends : ∀ e ∈ g.edges, e.source ∈ g.ids ∧ e.target ∈ g.ids) :
    errorsOf (connectionLog g (r.definitionsOf g)) (r.definitionsOf g) g.nodes = .ok [] ↔
      g.Valid Double.NotAbove r := by
  rw [errorsOf_eq_nil_iff]
  constructor
  · intro h
    have hnode : ∀ n ∈ g.nodes, ∃ d, r.get? n.type = some d ∧ n.Valid Double.NotAbove d ∧
        unconnectedMessages g (r.definitionsOf g) n.id = [] ∧
        (∀ e ∈ g.edges, edgeMessages g (r.definitionsOf g) n.id e = []) ∧
        g.isCyclic n.id = false := by
      intro n hn
      obtain ⟨d, hd, hvalid, hconnections⟩ := messagesOf_eq_nil_iff.mp (h n hn)
      rw [definitionsOf_of_mem hdistinct hn] at hd
      exact ⟨d, hd, hvalid, (connectionMessages_eq_nil_iff hn).mp hconnections⟩
    refine ⟨?_, ?_, ?_, ?_, ?_⟩
    · intro n hn
      obtain ⟨d, hd, _⟩ := hnode n hn
      exact ⟨d, hd⟩
    · intro n hn d hd
      obtain ⟨d', hd', hvalid, _⟩ := hnode n hn
      obtain rfl := Option.some.inj (hd'.symm.trans hd)
      exact hvalid
    · intro n hn d hd
      obtain ⟨_, _, _, hinputs, _⟩ := hnode n hn
      exact (unconnectedMessages_eq_nil_iff ((definitionsOf_of_mem hdistinct hn).trans hd)).mp
        hinputs
    · intro e he
      -- the messages about an edge are spread over its two end nodes
      obtain ⟨m, hm, hsource⟩ := Graph.mem_ids.mp (hends e he).1
      obtain ⟨n, hn, htarget⟩ := Graph.mem_ids.mp (hends e he).2
      obtain ⟨source, hs, _⟩ := hnode m hm
      obtain ⟨target, ht, _⟩ := hnode n hn
      refine ⟨m, hm, n, hn, hsource, htarget, source, hs, target, ht, ?_⟩
      refine (edgeMessages_eq_nil_iff_fits (hends e he).1 (hends e he).2
        (hsource ▸ (definitionsOf_of_mem hdistinct hm).trans hs)
        (htarget ▸ (definitionsOf_of_mem hdistinct hn).trans ht)).mp ?_
      intro id hid
      obtain ⟨x, hx, rfl⟩ := Graph.mem_ids.mp hid
      obtain ⟨_, _, _, _, hedges, _⟩ := hnode x hx
      exact hedges e he
    · refine (acyclic_iff hends).mpr fun n hn => ?_
      obtain ⟨_, _, _, _, _, hcycle⟩ := hnode n hn
      exact hcycle
  · intro h n hn
    obtain ⟨d, hd⟩ := h.registered n hn
    have hdef := (definitionsOf_of_mem hdistinct hn).trans hd
    refine messagesOf_eq_nil_iff.mpr ⟨d, hdef, h.nodes n hn d hd, ?_⟩
    refine (connectionMessages_eq_nil_iff hn).mpr ⟨?_, ?_, (acyclic_iff hends).mp h.acyclic n hn⟩
    · exact (unconnectedMessages_eq_nil_iff hdef).mpr (h.inputs n hn d hd)
    · intro e he
      obtain ⟨m, hm, k, hk, hsource, htarget, source, hs, target, ht, hfits⟩ := h.wires e he
      exact (edgeMessages_eq_nil_iff_fits (hends e he).1 (hends e he).2
        (hsource ▸ (definitionsOf_of_mem hdistinct hm).trans hs)
        (htarget ▸ (definitionsOf_of_mem hdistinct hk).trans ht)).mpr hfits n.id
          (Graph.mem_ids_of_mem hn)

/-- The pin that an edge of a valid graph leads to is a text. -/
theorem Graph.Valid.exists_targetInput {le : Double → Double → Prop} (h : g.Valid le r) {e : Edge}
    (he : e ∈ g.edges) : ∃ name, e.targetInput = .text name := by
  obtain ⟨m, _, n, _, _, _, source, _, target, _, hfits⟩ := h.wires e he
  obtain ⟨output, _, input, _, _, htext, _⟩ := hfits
  exact ⟨input.name, htext⟩

theorem edgeIsWritable_of_errorsOf
    (h : errorsOf (connectionLog g definitions) definitions g.nodes = .ok []) {e : Edge}
    (he : e ∈ g.edges) : edgeIsWritable g definitions e = true := by
  refine edgeIsWritable_of_messages ?_
  intro id hid
  obtain ⟨n, hn, rfl⟩ := Graph.mem_ids.mp hid
  obtain ⟨_, _, _, hconnections⟩ := messagesOf_eq_nil_iff.mp (errorsOf_eq_nil_iff.mp h n hn)
  exact ((connectionMessages_eq_nil_iff hn).mp hconnections).2.1 e he

/-- Pins that are texts can be looked up, so a valid graph gets as far as the messages. -/
theorem validate_eq_nil_iff (hdistinct : g.ids.Nodup)
    (hends : ∀ e ∈ g.edges, e.source ∈ g.ids ∧ e.target ∈ g.ids) :
    validate g r = .ok [] ↔ g.Valid Double.NotAbove r := by
  rw [← errorsOf_nodes_eq_nil_iff hdistinct hends]
  unfold validate
  split
  · split
    · rfl
    · rename_i hwritable
      constructor
      · intro h
        cases h
      · intro h
        refine absurd (List.all_eq_true.mpr fun e he => ?_) hwritable
        exact edgeIsWritable_of_errorsOf h he
  · rename_i hkeys
    constructor
    · intro h
      cases h
    · intro h
      refine absurd (List.all_eq_true.mpr fun e he => ?_) hkeys
      obtain ⟨name, htext⟩ :=
        ((errorsOf_nodes_eq_nil_iff hdistinct hends).mp h).exists_targetInput he
      rw [htext]
      rfl

theorem Graph.valid_iff_of_comparable (h : g.Comparable r) :
    g.Valid Double.NotAbove r ↔ g.Valid Double.Le r := by
  constructor
  · rintro ⟨hregistered, hnodes, hinputs, hwires, hacyclic⟩
    exact ⟨hregistered, fun n hn d hd =>
      (Node.valid_iff_of_comparable (h n hn d hd)).mp (hnodes n hn d hd), hinputs, hwires, hacyclic⟩
  · rintro ⟨hregistered, hnodes, hinputs, hwires, hacyclic⟩
    exact ⟨hregistered, fun n hn d hd =>
      (Node.valid_iff_of_comparable (h n hn d hd)).mpr (hnodes n hn d hd), hinputs, hwires,
      hacyclic⟩

/-- The absence of messages can be decided by running the validation. -/
instance decidableEqOkNil : (x : Except Fault (List NodeErrors)) → Decidable (x = .ok [])
  | .ok [] => isTrue rfl
  | .ok (_ :: _) => isFalse (by simp)
  | .error _ => isFalse (by simp)

/-- A graph with distinct ids and edges between its nodes gets no messages exactly when it is valid,
except that not-a-number passes for a number within any bounds. Where no field holds it against a
bound, this is validity in the order of the numbers. -/
theorem validate_sound_and_complete (hdistinct : g.ids.Nodup)
    (hends : ∀ e ∈ g.edges, e.source ∈ g.ids ∧ e.target ∈ g.ids) :
    (validate g r = .ok [] ↔ g.Valid Double.NotAbove r) ∧
      (g.Comparable r → (validate g r = .ok [] ↔ g.Valid Double.Le r)) :=
  ⟨validate_eq_nil_iff hdistinct hends, fun h =>
    (validate_eq_nil_iff hdistinct hends).trans (Graph.valid_iff_of_comparable h)⟩

end Graph

/-! ## A constant that is printed -/

/-- A number that must not be negative, with one output. -/
def constantType : NodeDefinition where
  name := "Constant"
  category := "Numbers"
  description := "A number"
  fields := .ofPairs [("value",
    ⟨.number, "Value", none, [], .null, true, some ⟨some .zero, none, none, none, none⟩⟩)]
  pins := ⟨[], [⟨"value", "f64", none, false⟩], List.nodup_nil, List.nodup_singleton _⟩
  template := "\x7b\x7bvalue\x7d\x7d"
  hook := none

/-- A required input for a number and an optional one for a format. -/
def printType : NodeDefinition where
  name := "Print"
  category := "Numbers"
  description := "Prints a number"
  fields := .empty
  pins := ⟨[⟨"value", "f64", none, false⟩, ⟨"format", "String", none, true⟩], [],
    List.nodup_cons.mpr ⟨by decide, List.nodup_singleton _⟩, List.nodup_nil⟩
  template := "println!(\x7b\x7bvalue\x7d\x7d, \x7b\x7bformat\x7d\x7d);"
  hook := none

def numberTypes : Registry := (Registry.empty.add constantType).add printType

/-- The node that prints stands before the one it is connected to. -/
def printed (v : Value) : Graph where
  nodes := [⟨"b", "Print", .origin, []⟩, ⟨"a", "Constant", .origin, [(.text "value", v)]⟩]
  edges := [⟨"e", "a", .text "value", "b", .text "value"⟩]

theorem constant_field (v : Value) :
    (⟨"a", "Constant", .origin, [(.text "value", v)]⟩ : Node).field "value" = v := by
  simp [Node.field, Value.field?, Value.lookup, Value.eqv]

theorem printed_two_comparable : (printed (.int 2)).Comparable numberTypes := by
  intro n hn d hd p hp _ c hc
  simp only [printed, List.mem_cons, List.not_mem_nil, or_false] at hn
  rcases hn with rfl | rfl
  · obtain rfl : printType = d := Option.some.inj hd
    cases hp
  · obtain rfl : constantType = d := Option.some.inj hd
    obtain rfl := List.mem_singleton.mp hp
    obtain rfl := Option.some.inj hc
    refine ⟨?_, by simp [Double.zero, Double.signedZero], by simp⟩
    rintro x hx rfl
    have htwo : (Value.int 2).number? =
        .ok (some (.finite false 0x10000000000000 (-51) (by decide))) := rfl
    rw [constant_field, htwo] at hx
    cases hx

theorem printed_two_valid :
    (printed (.int 2)).ids.Nodup ∧
      (∀ e ∈ (printed (.int 2)).edges,
        e.source ∈ (printed (.int 2)).ids ∧ e.target ∈ (printed (.int 2)).ids) ∧
      (printed (.int 2)).Valid Double.Le numberTypes :=
  ⟨by decide, by decide,
    ((validate_sound_and_complete (by decide) (by decide)).2 printed_two_comparable).mp
      (by decide +kernel)⟩

/-- Not-a-number gets no message although it is not at least zero. -/
theorem printed_nan_passes :
    validate (printed (.float .nan)) numberTypes = .ok [] ∧
      ¬ (printed (.float .nan)).Valid Double.Le numberTypes := by
  refine ⟨by decide +kernel, ?_⟩
  intro h
  let constant : Node := ⟨"a", "Constant", .origin, [(.text "value", .float .nan)]⟩
  have hvalid : constant.Valid Double.Le constantType :=
    h.nodes constant (by simp [printed, constant]) constantType rfl
  have haccepts := hvalid.values _ (List.mem_singleton.mpr rfl)
  rw [constant_field] at haccepts
  obtain ⟨x, hx, hrange⟩ := haccepts (by simp [Value.Given])
  have hnan : x = .nan := by simpa [Value.number?] using hx.symm
  exact ((hrange _ rfl).least _ rfl).2.1 hnan

end NodeGraph
