import NodeGraph.Proofs.Generation.Source
import NodeGraph.Proofs.Validation.Detached

/-!
# The names of outputs

An output is named after its node and its pin, with a low line between them. Both may hold low lines
themselves, so two outputs can have one name, and `outputIdentifier_eq_iff` says which: one id goes
on where the other ends, and what it has more is what the pin of the other begins with. An output
that stands like this to no other has its name for itself, and an input that it is wired into stands
for it and for no other. Nothing is said about the names that a template spells out or that a user
writes into a field.
-/

namespace NodeGraph

/-! ## Equal names -/

/-- A low line in two equal texts: it is at the same place, or the one in the first text comes before
or behind the one in the second. -/
theorem append_cons_eq_append_cons_iff {a b c d : List Char} {mark : Char} :
    a ++ mark :: b = c ++ mark :: d ↔
      (a = c ∧ b = d) ∨ (∃ t, c = a ++ mark :: t ∧ b = t ++ mark :: d) ∨
        ∃ t, a = c ++ mark :: t ∧ d = t ++ mark :: b := by
  constructor
  · intro h
    -- one front is a beginning of the other; what it lacks is nothing or starts with the mark
    rcases List.append_eq_append_iff.mp h with ⟨t, hc, hb⟩ | ⟨t, ha, hd⟩
    · cases t with
      | nil =>
          rw [List.append_nil] at hc
          exact .inl ⟨hc.symm, (List.cons.inj hb).2⟩
      | cons x t =>
          obtain ⟨rfl, htail⟩ := List.cons.inj hb
          exact .inr (.inl ⟨t, hc, htail⟩)
    · cases t with
      | nil =>
          rw [List.append_nil] at ha
          exact .inl ⟨ha, (List.cons.inj hd).2.symm⟩
      | cons x t =>
          obtain ⟨rfl, htail⟩ := List.cons.inj hd
          exact .inr (.inr ⟨t, ha, htail⟩)
  · rintro (⟨rfl, rfl⟩ | ⟨t, rfl, rfl⟩ | ⟨t, rfl, rfl⟩)
    · rfl
    · simp
    · simp

/-- The id `id'` goes on behind `id`, and `pin` begins with what it has more than `id`. -/
def Overlaps (id pin id' pin' : String) : Prop :=
  ∃ t, id' = id ++ "_" ++ t ∧ pin = t ++ "_" ++ pin'

theorem overlaps_iff {id pin id' pin' : String} :
    Overlaps id pin id' pin' ↔
      ∃ t, id'.toList = id.toList ++ '_' :: t ∧ pin.toList = t ++ '_' :: pin'.toList := by
  constructor
  · rintro ⟨t, rfl, rfl⟩
    exact ⟨t.toList, by simp, by simp⟩
  · rintro ⟨t, hid, hpin⟩
    refine ⟨String.ofList t, ?_, ?_⟩
    · apply String.toList_injective
      simp [hid]
    · apply String.toList_injective
      simp [hpin]

/-- Outputs of one node do not overlap. -/
theorem not_overlaps_self {id pin pin' : String} : ¬ Overlaps id pin id pin' := by
  intro h
  obtain ⟨t, hid, _⟩ := overlaps_iff.mp h
  have hlength := congrArg List.length hid
  rw [List.length_append, List.length_cons] at hlength
  omega

theorem toList_outputIdentifier {id pin : String} :
    (outputIdentifier id pin).toList = id.toList ++ '_' :: pin.toList := by
  simp [outputIdentifier]

/-- Different outputs have one name exactly if they overlap. -/
theorem outputIdentifier_eq_iff {id pin id' pin' : String} (hne : id ≠ id' ∨ pin ≠ pin') :
    outputIdentifier id pin = outputIdentifier id' pin' ↔
      Overlaps id pin id' pin' ∨ Overlaps id' pin' id pin := by
  rw [overlaps_iff, overlaps_iff, ← String.toList_inj, toList_outputIdentifier,
    toList_outputIdentifier, append_cons_eq_append_cons_iff]
  refine or_iff_right ?_
  rintro ⟨hid, hpin⟩
  rcases hne with hne | hne
  · exact hne (String.toList_injective hid)
  · exact hne (String.toList_injective hpin)

/-! ## The outputs of a graph -/

/-- A node of the graph and an output that its type declares. -/
def Graph.HasOutput (g : Graph) (r : Registry) (n : Node) (pin : Pin) : Prop :=
  n ∈ g.nodes ∧ ∃ d ∈ r.get? n.type, pin ∈ d.pins.outputs

/-- No output of the graph overlaps with this one, in whichever order the two are taken. -/
def Graph.StandsApart (g : Graph) (r : Registry) (m : Node) (p : Pin) : Prop :=
  ∀ n q, g.HasOutput r n q →
    ¬ Overlaps m.id p.name n.id q.name ∧ ¬ Overlaps n.id q.name m.id p.name

/-- The name is put into the source of the node as that of one of its outputs: in front of the value
of the only one, or where the template refers to one. -/
def Node.Names (g : Graph) (r : Registry) (s : Settings) (n : Node) (name : String) : Prop :=
  ∃ d ∈ r.get? n.type,
    (∃ pin code, d.pins.outputs = [pin] ∧ name = outputIdentifier n.id pin.name ∧
      expandNode g r s n = .ok ("let " ++ name ++ " = " ++ code ++ ";")) ∨
    ∃ inner, .placeholder inner ∈ Template.pieces d.template.toList ∧
      (expansionOf g s n d).resolve (.ofInner inner) = some (.output name)

theorem Expansion.output_of_resolve {x : Expansion} {ref : Template.Reference} {name : String}
    (h : x.resolve ref = some (.output name)) :
    ∃ pin ∈ x.definition.pins.outputs, name = outputIdentifier x.node.id pin.name := by
  have hown : ∀ pinName, x.output? pinName = some name →
      ∃ pin ∈ x.definition.pins.outputs, name = outputIdentifier x.node.id pin.name := by
    intro pinName houtput
    obtain ⟨pin, hpin, hname⟩ := Option.map_eq_some_iff.mp houtput
    obtain ⟨hmem, rfl⟩ := PinSet.output?_eq_some_iff.mp hpin
    exact ⟨pin, hmem, hname.symm⟩
  cases ref with
  | output pinName =>
      obtain ⟨text, houtput, htarget⟩ := Option.map_eq_some_iff.mp h
      obtain rfl := Target.output.inj htarget
      exact hown pinName houtput
  | bare pinName =>
      rw [resolve] at h
      split at h
      · cases h
      · cases h
      · rename_i houtput
        obtain rfl := Target.output.inj (Option.some.inj h)
        exact hown pinName houtput
      · split at h <;> cases h
  | field fieldName =>
      obtain ⟨_, _, htarget⟩ := Option.map_eq_some_iff.mp h
      cases htarget
  | input pinName =>
      obtain ⟨_, _, htarget⟩ := Option.map_eq_some_iff.mp h
      cases htarget
  | unknown => cases h

section

variable {g : Graph} {r : Registry} {s : Settings} {m n : Node} {p q : Pin}

/-- Different outputs differ in the id or in the name of the pin. -/
theorem Graph.HasOutput.ne (hdistinct : g.ids.Nodup) (hm : g.HasOutput r m p)
    (hn : g.HasOutput r n q) (hne : (m, p) ≠ (n, q)) : m.id ≠ n.id ∨ p.name ≠ q.name := by
  obtain ⟨hmem, d, hd, hp⟩ := hm
  obtain ⟨hmem', d', hd', hq⟩ := hn
  by_cases hid : m.id = n.id
  · right
    intro hname
    obtain rfl : m = n := Graph.eq_of_id_eq hdistinct hmem hmem' hid
    obtain rfl : d = d' := Option.some.inj (hd.symm.trans hd')
    obtain rfl : p = q := List.inj_on_of_nodup_map d.pins.nodup_outputs hp hq hname
    exact hne rfl
  · exact .inl hid

theorem Graph.HasOutput.name_eq_iff (hdistinct : g.ids.Nodup) (hm : g.HasOutput r m p)
    (hn : g.HasOutput r n q) (hne : (m, p) ≠ (n, q)) :
    outputIdentifier m.id p.name = outputIdentifier n.id q.name ↔
      Overlaps m.id p.name n.id q.name ∨ Overlaps n.id q.name m.id p.name :=
  outputIdentifier_eq_iff (hm.ne hdistinct hn hne)

/-- An output that stands apart has its name for itself. -/
theorem Graph.StandsApart.eq_of_name_eq (hapart : g.StandsApart r m p) (hdistinct : g.ids.Nodup)
    (hm : g.HasOutput r m p) (hn : g.HasOutput r n q)
    (hname : outputIdentifier n.id q.name = outputIdentifier m.id p.name) : n = m ∧ q = p := by
  by_contra hne
  have hpair : (n, q) ≠ (m, p) := by
    rw [Ne, Prod.mk.injEq]
    exact hne
  rcases (hn.name_eq_iff hdistinct hm hpair).mp hname with hoverlap | hoverlap
  · exact (hapart n q hn).2 hoverlap
  · exact (hapart n q hn).1 hoverlap

/-- A node names no outputs but its own. -/
theorem Node.Names.exists_output {name : String} (hn : n ∈ g.nodes) (h : n.Names g r s name) :
    ∃ q, g.HasOutput r n q ∧ name = outputIdentifier n.id q.name := by
  obtain ⟨d, hd, ⟨q, _, houtputs, hname, _⟩ | ⟨inner, _, hresolve⟩⟩ := h
  · exact ⟨q, ⟨hn, d, hd, houtputs ▸ List.mem_singleton_self q⟩, hname⟩
  · obtain ⟨q, hq, hname⟩ := Expansion.output_of_resolve hresolve
    exact ⟨q, ⟨hn, d, hd, hq⟩, hname⟩

/-! ## What is wired into an input -/

/-- An edge into a node of a graph without messages comes from a node, and fits. -/
theorem source_of_validate {e : Edge} {d : NodeDefinition} (hdistinct : g.ids.Nodup)
    (hvalidate : validate g r = .ok []) (he : e ∈ g.edges) (hn : n ∈ g.nodes)
    (htarget : e.target = n.id) (hd : r.get? n.type = some d) :
    ∃ m ∈ g.nodes, m.id = e.source ∧ ∃ source ∈ r.get? m.type, e.Fits source d := by
  have htargetMem : e.target ∈ g.ids := htarget ▸ Graph.mem_ids_of_mem hn
  have hsourceMem : e.source ∈ g.ids := (source_mem_iff_target_mem hvalidate he).mpr htargetMem
  obtain ⟨m, hm, hsource⟩ := Graph.mem_ids.mp hsourceMem
  obtain ⟨source, hs, _, _⟩ :=
    messagesOf_eq_nil_iff.mp ((validate_eq_nil_iff_messages.mp hvalidate).2 m hm)
  refine ⟨m, hm, hsource, source, (definitionsOf_of_mem hdistinct hm).symm.trans hs, ?_⟩
  refine (edgeMessages_eq_nil_iff_fits hsourceMem htargetMem (hsource ▸ hs)
    (htarget ▸ (definitionsOf_of_mem hdistinct hn).trans hd)).mp ?_
  intro id hid
  obtain ⟨x, hx, rfl⟩ := Graph.mem_ids.mp hid
  exact ((connectionMessages_eq_nil_iff hx).mp (connectionMessages_of_validate hvalidate hx)).2.1
    e he

/-- What stands for an input that an edge ends in is the name of the output that the first such edge
comes from. -/
theorem input?_of_validate {d : NodeDefinition} {pin : Pin} (hdistinct : g.ids.Nodup)
    (hvalidate : validate g r = .ok []) (hn : n ∈ g.nodes) (hd : r.get? n.type = some d)
    (hpin : pin ∈ d.pins.inputs) (hconnected : ∃ e ∈ g.edges, e.EndsIn n.id pin.name) :
    ∃ e m output, g.FirstInto n.id pin.name e ∧ g.HasOutput r m output ∧ m.id = e.source ∧
      e.sourceOutput = .text output.name ∧
      (expansionOf g s n d).input? pin.name = some (outputIdentifier m.id output.name) := by
  have hinput := Expansion.input?_of_mem (x := expansionOf g s n d) hpin
  -- the expansion looks for the first edge among those of the whole graph
  cases hedge : (expansionOf g s n d).edge? pin.name with
  | none =>
      obtain ⟨e, he, hends⟩ := hconnected
      exact absurd hends (Expansion.edge?_eq_none hedge e he)
  | some e =>
      have hfirst : g.FirstInto n.id pin.name e := Expansion.edge?_eq_some rfl hedge
      obtain ⟨m, hm, hsource, source, hs, output, houtput, _, _, hname, _, _⟩ :=
        source_of_validate hdistinct hvalidate hfirst.mem hn hfirst.1.1 hd
      refine ⟨e, m, output, hfirst, ⟨hm, source, hs, houtput⟩, hsource, hname, ?_⟩
      rw [hinput, hedge, hsource]
      show some (outputIdentifier e.source e.sourceOutput.display) = _
      rw [hname]
      rfl

/-- In a graph without messages, different outputs have one name exactly if they overlap. What stands
for a connected input is the name of the output wired into it. If that output stands apart, no other
one has its name, and no other node puts that name into its source as that of an output. -/
theorem outputs_named_apart (hdistinct : g.ids.Nodup) (hvalidate : validate g r = .ok []) :
    (∀ m p n q, g.HasOutput r m p → g.HasOutput r n q → (m, p) ≠ (n, q) →
      (outputIdentifier m.id p.name = outputIdentifier n.id q.name ↔
        Overlaps m.id p.name n.id q.name ∨ Overlaps n.id q.name m.id p.name)) ∧
    ∀ n ∈ g.nodes, ∀ d ∈ r.get? n.type, ∀ pin ∈ d.pins.inputs,
      (∃ e ∈ g.edges, e.EndsIn n.id pin.name) →
      ∃ e m output, g.FirstInto n.id pin.name e ∧ g.HasOutput r m output ∧ m.id = e.source ∧
        e.sourceOutput = .text output.name ∧
        (expansionOf g s n d).input? pin.name = some (outputIdentifier m.id output.name) ∧
        (g.StandsApart r m output →
          (∀ k q, g.HasOutput r k q →
            outputIdentifier k.id q.name = outputIdentifier m.id output.name → k = m ∧ q = output) ∧
          ∀ k ∈ g.nodes, k.Names g r s (outputIdentifier m.id output.name) → k = m) := by
  constructor
  · intro m p n q hm hn hne
    exact hm.name_eq_iff hdistinct hn hne
  · intro n hn d hd pin hpin hconnected
    obtain ⟨e, m, output, hfirst, houtput, hsource, hname, hinput⟩ :=
      input?_of_validate (s := s) hdistinct hvalidate hn hd hpin hconnected
    refine ⟨e, m, output, hfirst, houtput, hsource, hname, hinput, ?_⟩
    intro hapart
    constructor
    · intro k q hk heq
      exact hapart.eq_of_name_eq hdistinct houtput hk heq
    · intro k hk hnames
      obtain ⟨q, hother, heq⟩ := hnames.exists_output hk
      exact (hapart.eq_of_name_eq hdistinct houtput hother heq.symm).1

end

/-- Where a constant is printed it is the only output. -/
theorem id_of_printed_output {v : Value} {n : Node} {q : Pin}
    (h : (printed v).HasOutput numberTypes n q) : n.id = "a" := by
  obtain ⟨hn, d, hd, hq⟩ := h
  simp only [printed, List.mem_cons, List.not_mem_nil, or_false] at hn
  rcases hn with rfl | rfl
  · obtain rfl : printType = d := Option.some.inj hd
    cases hq
  · rfl

/-- What is printed is the constant: its name stands for the input, and only it has that name. -/
theorem printed_two_named :
    (printed (.int 2)).ids.Nodup ∧ validate (printed (.int 2)) numberTypes = .ok [] ∧
      ∃ (e : Edge) (m : Node) (output : Pin), (printed (.int 2)).FirstInto "b" "value" e ∧
        m.id = e.source ∧
        (expansionOf (printed (.int 2)) .standard ⟨"b", "Print", .origin, []⟩ printType).input?
          "value" = some (outputIdentifier m.id output.name) ∧
        ∀ k ∈ (printed (.int 2)).nodes,
          k.Names (printed (.int 2)) numberTypes .standard (outputIdentifier m.id output.name) →
            k = m := by
  have hdistinct : (printed (.int 2)).ids.Nodup := by decide
  have hvalidate : validate (printed (.int 2)) numberTypes = .ok [] := by decide +kernel
  have hconnected : ∃ e ∈ (printed (.int 2)).edges, e.EndsIn "b" "value" :=
    ⟨_, List.mem_singleton_self _, rfl, rfl⟩
  obtain ⟨e, m, output, hfirst, houtput, hsource, hname, hinput, hunique⟩ :=
    (outputs_named_apart (s := .standard) hdistinct hvalidate).2 _ List.mem_cons_self printType rfl
      _ List.mem_cons_self hconnected
  refine ⟨hdistinct, hvalidate, e, m, output, hfirst, hsource, hinput, (hunique ?_).2⟩
  intro n q hn
  rw [id_of_printed_output houtput, id_of_printed_output hn]
  exact ⟨not_overlaps_self, not_overlaps_self⟩

/-! ## Two outputs with one name -/

/-- A type without fields and inputs, whose one output has the value of its template. -/
def sourceType (name pin template : String) : NodeDefinition where
  name := name
  category := "Numbers"
  description := "A number"
  fields := .empty
  pins := ⟨[], [⟨pin, "f64", none, false⟩], List.nodup_nil, List.nodup_singleton _⟩
  template := template
  hook := none

/-- A type without pins that gives a number to the name in its field. -/
def variableType : NodeDefinition where
  name := "Variable"
  category := "Numbers"
  description := "A number with a name"
  fields := .ofPairs [("name", ⟨.text, "Name", none, [], .null, true, none⟩)]
  pins := .empty
  template := "let mut \x7b\x7bname\x7d\x7d = 3;"
  hook := none

def overlappingTypes : Registry :=
  (((Registry.empty.add (sourceType "Long" "b_c" "1")).add (sourceType "Short" "c" "2")).add
    variableType).add printType

/-- The output of the first node is wired into the last one. -/
def overlapping : Graph where
  nodes := [⟨"a", "Long", .origin, []⟩, ⟨"a_b", "Short", .origin, []⟩,
    ⟨"v", "Variable", .origin, [(.text "name", .text "a_b_c")]⟩, ⟨"d", "Print", .origin, []⟩]
  edges := [⟨"e", "a", .text "b_c", "d", .text "value"⟩]

/-- Two nodes with different ids, and their outputs have one name. What is printed is not the number
that is wired into the input: the second node gives the name to its own value, and the field of the
third one holds that name too. -/
theorem overlapping_shadowed :
    overlapping.ids.Nodup ∧ validate overlapping overlappingTypes = .ok [] ∧
      (∃ m p n q, overlapping.HasOutput overlappingTypes m p ∧
        overlapping.HasOutput overlappingTypes n q ∧ m.id ≠ n.id ∧
        outputIdentifier m.id p.name = outputIdentifier n.id q.name) ∧
      generate overlapping overlappingTypes .standard = .ok ("\n".intercalate
        ["// Generated Rust Code\n", "let a_b_c = 1;\n", "let a_b_c = 2;\n",
          "let mut a_b_c = 3;\n", "println!(a_b_c, Default::default());\n"]) := by
  have hdistinct : overlapping.ids.Nodup := by decide
  have hends : ∀ e ∈ overlapping.edges,
      e.source ∈ overlapping.ids ∧ e.target ∈ overlapping.ids := by decide
  have hvalidate : validate overlapping overlappingTypes = .ok [] := by decide +kernel
  -- sorting does not evaluate, but there is nothing to sort
  have hsorted : (overlapping.vertices.mergeSort fun v w =>
      overlapping.rank v ≤ overlapping.rank w) = overlapping.vertices :=
    List.mergeSort_of_pairwise (by decide +kernel)
  have horder : overlapping.emissionOrder = .ok overlapping.nodes := by
    rw [Graph.emissionOrder, Graph.sortedVertices, hsorted]
    rfl
  have hcodes : overlapping.nodes.mapM (expandNode overlapping overlappingTypes .standard) =
      .ok ["let a_b_c = 1;", "let a_b_c = 2;", "let mut a_b_c = 3;",
        "println!(a_b_c, Default::default());"] := by
    decide +kernel
  have hlong : overlapping.HasOutput overlappingTypes ⟨"a", "Long", .origin, []⟩
      ⟨"b_c", "f64", none, false⟩ :=
    ⟨List.mem_cons_self, _, rfl, List.mem_singleton_self _⟩
  have hshort : overlapping.HasOutput overlappingTypes ⟨"a_b", "Short", .origin, []⟩
      ⟨"c", "f64", none, false⟩ :=
    ⟨List.mem_cons_of_mem _ List.mem_cons_self, _, rfl, List.mem_singleton_self _⟩
  refine ⟨hdistinct, hvalidate, ⟨_, _, _, _, hlong, hshort, by decide, rfl⟩, ?_⟩
  rw [generate_of_valid hvalidate ((validate_eq_nil_iff hdistinct hends).mp hvalidate) horder,
    hcodes]
  rfl

end NodeGraph
