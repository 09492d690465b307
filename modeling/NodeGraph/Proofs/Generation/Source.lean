import NodeGraph.Proofs.Generation.Expansion
import NodeGraph.Proofs.Graph.EmissionOrder
import NodeGraph.Proofs.Validation.Completion

/-!
# The source of a valid graph

The source that is generated for a valid graph has the header and one chunk for each node, and each
reference to an input stands for what is wired into it.

Three parts come together here. Validity gives every edge an output and an input of the same type
and leaves no required input unconnected. The order of emission puts the node at the source of an
edge before the one at its target. The expansion looks for the first edge into an input.
-/

namespace NodeGraph

/-- All that the template of a node can refer to. -/
def expansionOf (g : Graph) (s : Settings) (n : Node) (d : NodeDefinition) : Expansion :=
  ⟨n, d, g.edges, s.unconnectedInput⟩

/-- What stands for the input `pin` of the node `n` when the chunks of the nodes `earlier` come
before its own: the output that the first edge into it leads from, which one of these nodes has with
the type of the pin, or the substitute for an optional input that no edge ends in. -/
inductive InputText (g : Graph) (r : Registry) (s : Settings) (earlier : List Node) (n : Node)
    (pin : Pin) : String → Prop where
  | connected {e : Edge} {m : Node} {d : NodeDefinition} {output : Pin}
      (first : g.FirstInto n.id pin.name e)
      (source : m ∈ earlier) (id : m.id = e.source) (type : r.get? m.type = some d)
      (declared : output ∈ d.pins.outputs) (name : e.sourceOutput = .text output.name)
      (fits : output.type = pin.type) :
      InputText g r s earlier n pin (outputIdentifier e.source output.name)
  | unconnected (optional : pin.isOptional = true)
      (none : ∀ e ∈ g.edges, ¬ e.EndsIn n.id pin.name) :
      InputText g r s earlier n pin s.unconnectedInput

section

variable {g : Graph} {r : Registry} {s : Settings}

/-! ## One node -/

theorem expandNode_of_get? {n : Node} {d : NodeDefinition} (hd : r.get? n.type = some d) :
    expandNode g r s n = (expansionOf g s n d).expand := by
  simp only [expandNode, Registry.require, hd]
  rfl

theorem expandNode_renders {n : Node} {d : NodeDefinition} {code : String}
    (hd : r.get? n.type = some d) (h : expandNode g r s n = .ok code) :
    ∃ texts, (expansionOf g s n d).Renders texts code :=
  Expansion.expand_renders (expandNode_of_get? hd ▸ h)

/-- The first edge into an input comes from an output of the same type, on a node emitted before. -/
theorem Graph.FirstInto.source {pre post : List Node} {n : Node} {d : NodeDefinition} {pin : Pin}
    {e : Edge} (hdistinct : g.ids.Nodup) (hvalid : g.Valid Double.NotAbove r)
    (horder : g.emissionOrder = .ok (pre ++ n :: post)) (hd : r.get? n.type = some d)
    (hpin : pin ∈ d.pins.inputs) (hfirst : g.FirstInto n.id pin.name e) :
    ∃ m ∈ pre, m.id = e.source ∧ ∃ source ∈ r.get? m.type, ∃ output ∈ source.pins.outputs,
      e.sourceOutput = .text output.name ∧ output.type = pin.type := by
  obtain ⟨m, hm, k, hk, hsource, htarget, source, hs, target, ht, hfits⟩ :=
    hvalid.wires e hfirst.mem
  obtain ⟨output, houtput, input, hinput, hname, htext, htype⟩ := hfits
  have hn : n ∈ g.nodes := mem_of_emissionOrder hdistinct horder
  -- the edge ends at `n` itself, so its input is the pin in question
  obtain rfl : k = n := Graph.eq_of_id_eq hdistinct hk hn (htarget.trans hfirst.1.1)
  obtain rfl : target = d := Option.some.inj (ht.symm.trans hd)
  have hsame : input.name = pin.name := Value.text.inj (htext.symm.trans hfirst.1.2)
  obtain rfl : input = pin :=
    List.inj_on_of_nodup_map target.pins.nodup_inputs hinput hpin hsame
  refine ⟨m, ?_, hsource, source, hs, output, houtput, hname, htype⟩
  exact emissionOrder_source_before hdistinct horder hfirst.mem hfirst.1.1 hm
    hsource.symm

theorem text?_of_inputPin? {pre post : List Node} {n : Node} {d : NodeDefinition} {pin : Pin}
    {inner : List Char} (hdistinct : g.ids.Nodup) (hvalid : g.Valid Double.NotAbove r)
    (horder : g.emissionOrder = .ok (pre ++ n :: post)) (hd : r.get? n.type = some d)
    (hpin : (expansionOf g s n d).inputPin? (.ofInner inner) = some pin) :
    ∃ text, (expansionOf g s n d).text? (.placeholder inner) = some text ∧
      InputText g r s pre n pin text := by
  obtain ⟨hmem, hresolve⟩ := Expansion.resolve_of_inputPin? hpin
  rw [Expansion.text?, hresolve, Expansion.input?_of_mem hmem]
  cases hedge : (expansionOf g s n d).edge? pin.name with
  | some e =>
      have hfirst : g.FirstInto n.id pin.name e := Expansion.edge?_eq_some rfl hedge
      obtain ⟨m, hm, hid, source, hs, output, houtput, hname, htype⟩ :=
        hfirst.source hdistinct hvalid horder hd hmem
      refine ⟨_, rfl, ?_⟩
      show InputText g r s pre n pin (outputIdentifier e.source e.sourceOutput.display)
      rw [hname]
      exact .connected hfirst hm hid hs houtput hname htype
  | none =>
      have hnone := Expansion.edge?_eq_none hedge
      refine ⟨_, rfl, .unconnected ?_ hnone⟩
      -- validation would have found a required input unconnected
      by_contra hrequired
      have hn : n ∈ g.nodes := Graph.mem_of_emissionOrder hdistinct horder
      obtain ⟨e, he, hends⟩ := hvalid.inputs n hn d hd pin hmem (Bool.not_eq_true _ ▸ hrequired)
      exact hnone e he hends

/-! ## All nodes -/

/-- All that the templates of the nodes refer to can be written. -/
def Graph.Writable (g : Graph) (r : Registry) (s : Settings) : Prop :=
  ∀ n ∈ g.nodes, ∀ d ∈ r.get? n.type, (expansionOf g s n d).Writable

instance : Decidable (g.Writable r s) :=
  inferInstanceAs (Decidable (∀ n ∈ g.nodes, ∀ d ∈ r.get? n.type, (expansionOf g s n d).Writable))

/-- The chunks fail only if a template is broken, or refers to what cannot be written. -/
theorem expandNode_error {n : Node} {d : NodeDefinition} {fault : Fault}
    (hd : r.get? n.type = some d) (hwritable : (expansionOf g s n d).Writable)
    (h : expandNode g r s n = .error fault) :
    ∃ type placeholder id, fault = .brokenTemplate type placeholder id := by
  rw [expandNode_of_get? hd] at h
  rcases Expansion.expand_error h with ⟨placeholder, heq⟩ | ⟨_, hlong⟩
  · exact ⟨_, placeholder, _, heq⟩
  · exact absurd hwritable hlong

theorem generate_of_messages {errors : List NodeErrors} (h : validate g r = .ok errors)
    (hne : errors ≠ []) : generate g r s = .ok (errorReport errors s) := by
  have hsome : errors.isEmpty = false := by simpa using hne
  simp only [generate, h]
  show (if errors.isEmpty then _ else _) = _
  rw [hsome]
  rfl

theorem generate_of_no_messages (h : validate g r = .ok []) :
    generate g r s = generateCode g r s := by
  simp only [generate, h]
  rfl

theorem generate_of_valid (hvalidate : validate g r = .ok []) (hvalid : g.Valid Double.NotAbove r)
    {order : List Node} (horder : g.emissionOrder = .ok order) :
    generate g r s = (order.mapM (expandNode g r s)).map fun codes =>
      "\n".intercalate ((s.commentPrefix ++ " " ++ s.generatedHeader ++ "\n") ::
        codes.map (· ++ "\n")) := by
  have hkeys : (g.edges.any fun e => !e.targetInput.isKey) = false := by
    rw [List.any_eq_false]
    intro e he
    obtain ⟨name, htext⟩ := hvalid.exists_targetInput he
    rw [htext]
    simp [Value.isKey]
  rw [generate_of_no_messages hvalidate, generateCode, hkeys, horder]
  show (order.mapM (expandNode g r s)).bind _ = _
  cases order.mapM (expandNode g r s) <;> rfl

/-- A valid graph has a source if each of its nodes has one. -/
theorem generate_isOk (hdistinct : g.ids.Nodup) (hvalidate : validate g r = .ok [])
    (hvalid : g.Valid Double.NotAbove r)
    (hnodes : ∀ n ∈ g.nodes, (expandNode g r s n).isOk = true) :
    (generate g r s).isOk = true := by
  obtain ⟨order, horder⟩ := Graph.exists_emissionOrder hvalid.acyclic
  rw [generate_of_valid hvalidate hvalid horder]
  cases hcodes : order.mapM (expandNode g r s) with
  | error fault =>
      obtain ⟨n, hn, hfault⟩ := exists_of_mapM_eq_error hcodes
      have hok := hnodes n ((Graph.emissionOrder_perm hdistinct horder).mem_iff.mp hn)
      rw [hfault] at hok
      cases hok
  | ok codes => rfl

/-- If no template is broken and all that they refer to can be written, the source of a valid graph
is its header and one chunk for each node. A reference to an input stands for the output that is
wired into it, which comes before; all other pieces of a template are the same whatever the
substitute for unconnected inputs is. -/
theorem generate_complete_and_wired (hdistinct : g.ids.Nodup)
    (hends : ∀ e ∈ g.edges, e.source ∈ g.ids ∧ e.target ∈ g.ids)
    (hvalidate : validate g r = .ok [])
    (htemplates : ∀ type placeholder id,
      generate g r s ≠ .error (.brokenTemplate type placeholder id))
    (hwritable : g.Writable r s) :
    ∃ order codes,
      generate g r s = .ok ("\n".intercalate
        ((s.commentPrefix ++ " " ++ s.generatedHeader ++ "\n") :: codes.map (· ++ "\n"))) ∧
      order.Perm g.nodes ∧
      List.Forall₂ (fun n code => ∃ d ∈ r.get? n.type, ∃ texts,
        (expansionOf g s n d).Renders texts code) order codes ∧
      ∀ pre n post, order = pre ++ n :: post → ∀ d ∈ r.get? n.type, ∀ inner,
        .placeholder inner ∈ Template.pieces d.template.toList →
        (∀ pin, (expansionOf g s n d).inputPin? (.ofInner inner) = some pin →
          ∃ text, (expansionOf g s n d).text? (.placeholder inner) = some text ∧
            InputText g r s pre n pin text) ∧
        ((expansionOf g s n d).inputPin? (.ofInner inner) = none → ∀ substitute,
          { expansionOf g s n d with unconnectedInput := substitute }.text? (.placeholder inner) =
            (expansionOf g s n d).text? (.placeholder inner)) := by
  have hvalid := (validate_eq_nil_iff hdistinct hends).mp hvalidate
  obtain ⟨order, horder⟩ := Graph.exists_emissionOrder hvalid.acyclic
  have hperm := Graph.emissionOrder_perm hdistinct horder
  have hgenerate := generate_of_valid (s := s) hvalidate hvalid horder
  cases hcodes : order.mapM (expandNode g r s) with
  | error fault =>
      obtain ⟨n, hn, hfault⟩ := exists_of_mapM_eq_error hcodes
      have hmem := hperm.mem_iff.mp hn
      obtain ⟨d, hd⟩ := hvalid.registered n hmem
      obtain ⟨type, placeholder, id, rfl⟩ := expandNode_error hd (hwritable n hmem d hd) hfault
      rw [hcodes] at hgenerate
      exact absurd hgenerate (htemplates type placeholder id)
  | ok codes =>
      rw [hcodes] at hgenerate
      refine ⟨order, codes, hgenerate, hperm, ?_, ?_⟩
      · have hall := mapM_eq_ok_iff.mp hcodes
        refine List.forall₂_iff_zip.mpr ⟨hall.length_eq, fun {n code} hzip => ?_⟩
        obtain ⟨d, hd⟩ := hvalid.registered n (hperm.mem_iff.mp (List.of_mem_zip hzip).1)
        exact ⟨d, hd, expandNode_renders hd ((List.forall₂_iff_zip.mp hall).2 hzip)⟩
      · rintro pre n post rfl d hd inner _
        exact ⟨fun pin hpin => text?_of_inputPin? hdistinct hvalid horder hd hpin,
          Expansion.text?_of_inputPin?_eq_none⟩

end

theorem printed_two_wired :
    validate (printed (.int 2)) numberTypes = .ok [] ∧
      (∀ type placeholder id, generate (printed (.int 2)) numberTypes .standard ≠
        .error (.brokenTemplate type placeholder id)) ∧
      (printed (.int 2)).Writable numberTypes .standard ∧
      ∃ order : List Node, ∃ codes : List String,
        generate (printed (.int 2)) numberTypes .standard = .ok ("\n".intercalate
          ("// Generated Rust Code\n" :: codes.map (· ++ "\n"))) ∧
        order.Perm (printed (.int 2)).nodes := by
  have hdistinct : (printed (.int 2)).ids.Nodup := by decide
  have hends : ∀ e ∈ (printed (.int 2)).edges,
      e.source ∈ (printed (.int 2)).ids ∧ e.target ∈ (printed (.int 2)).ids := by decide
  have hvalidate : validate (printed (.int 2)) numberTypes = .ok [] := by decide +kernel
  have htemplates : ∀ type placeholder id, generate (printed (.int 2)) numberTypes .standard ≠
      .error (.brokenTemplate type placeholder id) := by
    intro type placeholder id h
    have hok : (generate (printed (.int 2)) numberTypes .standard).isOk = true :=
      generate_isOk hdistinct hvalidate ((validate_eq_nil_iff hdistinct hends).mp hvalidate)
        (by decide +kernel)
    rw [h] at hok
    cases hok
  have hwritable : (printed (.int 2)).Writable numberTypes .standard := by decide +kernel
  obtain ⟨order, codes, hgenerate, hperm, _⟩ :=
    generate_complete_and_wired hdistinct hends hvalidate htemplates hwritable
  exact ⟨hvalidate, htemplates, hwritable, order, codes, hgenerate, hperm⟩

/-- A type with a text, which the template may refer to. -/
def noteType (template : String) : NodeDefinition where
  name := "Note"
  category := "Notes"
  description := "A note"
  fields := .ofPairs [("text", ⟨.text, "Text", none, [], .null, false, none⟩)]
  pins := .empty
  template := template
  hook := none

def note (v : Value) : Node := ⟨"a", "Note", .origin, [(.text "text", v)]⟩

theorem note_field (v : Value) : (note v).field "text" = v := by
  simp [note, Node.field, Value.field?, Value.lookup, Value.eqv]

theorem isWritable_note {template : String} {edges : List Edge} {substitute : String} {v : Value} :
    Expansion.isWritable ⟨note v, noteType template, edges, substitute⟩ (.bare "text") =
      v.isWritable :=
  congrArg Value.isWritable (note_field v)

def textNotes : Registry := Registry.empty.add (noteType "\x7b\x7btext\x7d\x7d")

def longNote : Graph := ⟨[note tooLong], []⟩

theorem validate_longNote : validate longNote textNotes = .ok [] := by decide +kernel

theorem generate_longNote : generate longNote textNotes .standard = .error .wrongShape := by
  have hdistinct : longNote.ids.Nodup := by decide
  have hends : ∀ e ∈ longNote.edges, e.source ∈ longNote.ids ∧ e.target ∈ longNote.ids := by decide
  -- sorting does not evaluate, but there is nothing to sort
  have hsorted : (longNote.vertices.mergeSort fun v w => longNote.rank v ≤ longNote.rank w) =
      longNote.vertices := List.mergeSort_of_pairwise (by decide +kernel)
  have horder : longNote.emissionOrder = .ok longNote.nodes := by
    rw [Graph.emissionOrder, Graph.sortedVertices, hsorted]
    rfl
  have hpieces : Template.pieces (noteType "\x7b\x7btext\x7d\x7d").template.toList =
      [.placeholder "text".toList] := by decide
  have hexpand : expandNode longNote textNotes .standard (note tooLong) = .error .wrongShape := by
    rw [expandNode_of_get? (d := noteType "\x7b\x7btext\x7d\x7d") rfl,
      Expansion.expand_eq_error_iff]
    refine (congrArg _ hpieces).trans (Expansion.targets_cons_of_stuck (.unwritable rfl ?_))
    exact isWritable_note.trans not_isWritable_tooLong
  rw [generate_of_valid validate_longNote
    ((validate_eq_nil_iff hdistinct hends).mp validate_longNote) horder]
  show ([note tooLong].mapM (expandNode longNote textNotes .standard)).map _ = _
  rw [List.mapM_cons, hexpand]
  rfl

/-- An integer that cannot be written is a valid text, but there is no source for it. -/
theorem longNote_not_generated :
    longNote.ids.Nodup ∧ validate longNote textNotes = .ok [] ∧
      generate longNote textNotes .standard = .error .wrongShape :=
  ⟨by decide, validate_longNote, generate_longNote⟩

end NodeGraph
