import NodeGraph.Proofs.Generation.Source
import NodeGraph.Proofs.Graph.Rearrangement
import NodeGraph.Proofs.Registry.Hooks

/-!
# The source of rearranged graphs

Where its nodes stand on the canvas, in which order its edges are listed and which ids they have
makes no difference to whether a graph is valid and to what is generated for it. Two things could
tell rearranged graphs apart: a hook that looks at places, and an input into which several edges
lead, since the first of them counts.
-/

namespace NodeGraph

/-! ## Hooks that ignore places -/

/-- What the hook says about a node does not depend on where the node stands. Places are carried for
round trips only. -/
def Hook.IgnoresPlaces (hook : Hook) : Prop :=
  ∀ n position, hook.check { n with position := position } = hook.check n

/-- No hook of the registry looks at places. -/
def Registry.IgnoresPlaces (r : Registry) : Prop := r.AllHooks Hook.IgnoresPlaces

theorem Hook.ignoresPlaces_of_builtin {hook : Hook} (h : builtin.Offers hook) :
    hook.IgnoresPlaces := by
  obtain ⟨name, hget⟩ := h
  have hmem : (name, some hook) ∈ builtin.entries := Table.mem_entries_iff.mpr hget
  have hentries : builtin.entries =
      [("identifier", some identifier), ("typed_literal", some typedLiteral)] := rfl
  rw [hentries] at hmem
  simp only [List.mem_cons, Prod.mk.injEq, Option.some.injEq, List.not_mem_nil, or_false] at hmem
  -- both look at fields only
  rcases hmem with ⟨_, rfl⟩ | ⟨_, rfl⟩
  · intro n position
    rfl
  · intro n position
    rfl

/-- A registry whose hooks are all built in ignores places. -/
theorem Registry.ignoresPlaces_of_builtin {history : List Change}
    (h : ∀ change ∈ history, ∀ hook, change.Supplies hook → Hook.builtin.Offers hook) :
    (empty.after history).IgnoresPlaces := by
  refine allHooks_after history ?_ allHooks_empty
  intro change hchange hook hsupplies
  exact Hook.ignoresPlaces_of_builtin (h change hchange hook hsupplies)

/-! ## Validity -/

section

variable {g g' : Graph} {r : Registry} {le : Double → Double → Prop}

theorem Node.Valid.of_unplaced {n n' : Node} {d : NodeDefinition} (h : n.Valid le d)
    (hhook : ∀ hook ∈ d.hook, hook.check n' = hook.check n) (hsame : n'.unplaced = n.unplaced) :
    n'.Valid le d := by
  have hfield : ∀ name, n'.field name = n.field name := by
    intro name
    unfold Node.field
    rw [(Node.unplaced_eq_iff.mp hsame).2.2]
  refine ⟨?_, ?_, ?_⟩
  · intro p hp hrequired
    rw [hfield]
    exact h.required p hp hrequired
  · intro hook hmem
    rw [hhook hook hmem]
    exact h.hook hook hmem
  · intro p hp hgiven
    rw [hfield] at hgiven ⊢
    exact h.values p hp hgiven

/-- Hooks that ignore places say the same about nodes that differ in their places only, and all
hooks say the same if there is no such difference. -/
theorem check_eq_of_unplaced_eq (hdistinct : g.ids.Nodup)
    (hhooks : r.IgnoresPlaces ∨ g'.nodes = g.nodes) {n n' : Node} {d : NodeDefinition}
    (hn : n ∈ g.nodes) (hn' : n' ∈ g'.nodes) (hsame : n'.unplaced = n.unplaced)
    (hd : r.get? n.type = some d) : ∀ hook ∈ d.hook, hook.check n' = hook.check n := by
  intro hook hmem
  rcases hhooks with hignores | hnodes
  · rw [Node.eq_of_unplaced_eq hsame]
    exact hignores n.type d hd hook hmem n _
  · rw [hnodes] at hn'
    rw [Graph.eq_of_id_eq hdistinct hn' hn (Node.unplaced_eq_iff.mp hsame).1]

theorem Graph.Valid.of_rearranged (hvalid : g.Valid le r) (h : g.Rearranged g')
    (hdistinct : g.ids.Nodup) (hhooks : r.IgnoresPlaces ∨ g'.nodes = g.nodes) :
    g'.Valid le r where
  registered := by
    intro n' hn'
    obtain ⟨n, hn, hsame⟩ := h.symm.exists_node hn'
    rw [← (Node.unplaced_eq_iff.mp hsame).2.1]
    exact hvalid.registered n hn
  nodes := by
    intro n' hn' d hd
    obtain ⟨n, hn, hsame⟩ := h.symm.exists_node hn'
    rw [← (Node.unplaced_eq_iff.mp hsame).2.1] at hd
    have hcheck := check_eq_of_unplaced_eq hdistinct hhooks hn hn' hsame.symm hd
    exact (hvalid.nodes n hn d hd).of_unplaced hcheck hsame.symm
  inputs := by
    intro n' hn' d hd pin hpin hrequired
    obtain ⟨n, hn, hsame⟩ := h.symm.exists_node hn'
    obtain ⟨hid, htype, _⟩ := Node.unplaced_eq_iff.mp hsame
    rw [← htype] at hd
    obtain ⟨e, he, hends⟩ := hvalid.inputs n hn d hd pin hpin hrequired
    obtain ⟨e', he', hedge⟩ := h.exists_edge he
    obtain ⟨_, _, htarget, hinput⟩ := Edge.unnamed_eq_iff.mp hedge
    exact ⟨e', he', htarget.trans (hends.1.trans hid), hinput.trans hends.2⟩
  wires := by
    intro e' he'
    obtain ⟨e, he, hedge⟩ := h.symm.exists_edge he'
    obtain ⟨hsource, houtput, htarget, hinput⟩ := Edge.unnamed_eq_iff.mp hedge
    obtain ⟨m, hm, n, hn, hmid, hnid, source, hs, target, ht, output, hout, input, hin, hname,
      htext, hfits⟩ := hvalid.wires e he
    obtain ⟨m', hm', hmsame⟩ := h.exists_node hm
    obtain ⟨n', hn', hnsame⟩ := h.exists_node hn
    obtain ⟨hmid', hmtype, _⟩ := Node.unplaced_eq_iff.mp hmsame
    obtain ⟨hnid', hntype, _⟩ := Node.unplaced_eq_iff.mp hnsame
    refine ⟨m', hm', n', hn', hmid'.trans (hmid.trans hsource), hnid'.trans (hnid.trans htarget),
      source, hmtype.symm ▸ hs, target, hntype.symm ▸ ht, ?_⟩
    exact ⟨output, hout, input, hin, houtput.symm.trans hname, hinput.symm.trans htext, hfits⟩
  acyclic := h.acyclic hvalid.acyclic

end

/-! ## The edge into an input -/

/-- Only one of several things that satisfy a test can be found if they are all the same, in
whichever order they are looked through. -/
theorem find?_eq_of_perm {α : Type} {xs ys : List α} {p : α → Bool} (hperm : xs.Perm ys)
    (hsame : ∀ a ∈ xs, ∀ b ∈ xs, p a = true → p b = true → a = b) : xs.find? p = ys.find? p := by
  cases hfound : xs.find? p with
  | none =>
      symm
      rw [List.find?_eq_none] at hfound ⊢
      intro b hb
      exact hfound b (hperm.mem_iff.mpr hb)
  | some a =>
      have ha := List.mem_of_find?_eq_some hfound
      have hpa := List.find?_some hfound
      obtain ⟨b, hb⟩ : ∃ b, ys.find? p = some b := by
        apply Option.isSome_iff_exists.mp
        exact List.find?_isSome.mpr ⟨a, hperm.mem_iff.mp ha, hpa⟩
      have hmem := hperm.mem_iff.mpr (List.mem_of_find?_eq_some hb)
      rw [hb, hsame a ha b hmem hpa (List.find?_some hb)]

/-- No two edges lead into the same input. -/
def Graph.SingleWires (g : Graph) : Prop := (g.edges.map fun e => (e.target, e.targetInput)).Nodup

namespace Expansion

variable {x x' : Expansion}

/-- The edge that is found does not depend on the order of the edges if there is one at most. -/
theorem map_edge?_of_perm (hnode : x'.node.id = x.node.id)
    (hperm : (x'.edges.map Edge.unnamed).Perm (x.edges.map Edge.unnamed))
    (hsingle : (x.edges.map fun e => (e.target, e.targetInput)).Nodup) (name : String) :
    (x'.edge? name).map Edge.unnamed = (x.edge? name).map Edge.unnamed := by
  let leads (e : Edge) : Bool := e.target = x.node.id && (Value.text name).eqv e.targetInput
  have hfind : (x.edge? name).map Edge.unnamed = (x.edges.map Edge.unnamed).find? leads := by
    rw [List.find?_map]
    rfl
  have hfind' : (x'.edge? name).map Edge.unnamed = (x'.edges.map Edge.unnamed).find? leads := by
    unfold edge?
    rw [List.find?_map, hnode]
    rfl
  rw [hfind, hfind']
  symm
  refine find?_eq_of_perm hperm.symm ?_
  intro a ha b hb hleads hleads'
  obtain ⟨e, he, rfl⟩ := List.mem_map.mp ha
  obtain ⟨f, hf, rfl⟩ := List.mem_map.mp hb
  obtain ⟨htarget, hinput⟩ := Edge.endsIn_iff.mp hleads
  obtain ⟨htarget', hinput'⟩ := Edge.endsIn_iff.mp hleads'
  have hsame : (e.target, e.targetInput) = (f.target, f.targetInput) :=
    Prod.ext (htarget.trans htarget'.symm) (hinput.trans hinput'.symm)
  rw [List.inj_on_of_nodup_map hsingle he hf hsame]

/-! ## Expansions that agree -/

/-- Nothing that a template refers to tells the two apart. -/
structure Agrees (x x' : Expansion) : Prop where
  node : x'.node.unplaced = x.node.unplaced
  definition : x'.definition = x.definition
  unconnectedInput : x'.unconnectedInput = x.unconnectedInput
  edges : ∀ name, (x'.edge? name).map Edge.unnamed = (x.edge? name).map Edge.unnamed

namespace Agrees

theorem input?_eq (h : x.Agrees x') (name : String) : x'.input? name = x.input? name := by
  unfold input?
  rw [h.definition, h.unconnectedInput]
  have hedge := h.edges name
  cases hfound : x.edge? name with
  | none =>
      rw [hfound, Option.map_none, Option.map_eq_none_iff] at hedge
      rw [hedge]
  | some e =>
      rw [hfound, Option.map_some, Option.map_eq_some_iff] at hedge
      obtain ⟨e', hfound', hsame⟩ := hedge
      obtain ⟨hsource, houtput, _, _⟩ := Edge.unnamed_eq_iff.mp hsame
      rw [hfound']
      show (x.definition.pins.input? name).map (fun _ =>
        outputIdentifier e'.source e'.sourceOutput.display) = _
      rw [hsource, houtput]

theorem wiredPin?_eq (h : x.Agrees x') (name : String) : x'.wiredPin? name = x.wiredPin? name := by
  have hpin (y : Expansion) : (y.edge? name).map (·.sourceOutput) =
      ((y.edge? name).map Edge.unnamed).map (·.sourceOutput) := by
    rw [Option.map_map]
    rfl
  unfold wiredPin?
  rw [h.definition, hpin x', h.edges, ← hpin]

theorem fieldValue?_eq (h : x.Agrees x') (name : String) :
    x'.fieldValue? name = x.fieldValue? name := by
  unfold fieldValue? Node.field
  rw [h.definition, (Node.unplaced_eq_iff.mp h.node).2.2]

theorem alike (h : x.Agrees x') : x.Alike x' where
  id := (Node.unplaced_eq_iff.mp h.node).1
  name := by rw [h.definition]
  template := by rw [h.definition]
  outputs := by rw [h.definition]
  fieldValue? := h.fieldValue?_eq
  input? := h.input?_eq
  wiredPin? := h.wiredPin?_eq

end Agrees

end Expansion

/-! ## The source -/

section

variable {g g' : Graph} {r : Registry} {s : Settings}

theorem expandNode_of_rearranged (h : g.Rearranged g') (hsingle : g.SingleWires) {n n' : Node}
    (hnode : n'.unplaced = n.unplaced) : expandNode g' r s n' = expandNode g r s n := by
  obtain ⟨hid, htype, _⟩ := Node.unplaced_eq_iff.mp hnode
  unfold expandNode
  rw [htype]
  refine congrArg _ (funext fun d => ?_)
  have hagrees : (expansionOf g s n d).Agrees (expansionOf g' s n' d) :=
    ⟨hnode, rfl, rfl, Expansion.map_edge?_of_perm hid h.edges hsingle⟩
  exact hagrees.alike.expand_eq

/-- Nodes that differ in their places only are expanded alike, one after the other. -/
theorem mapM_expandNode_of_rearranged (h : g.Rearranged g') (hsingle : g.SingleWires)
    {order order' : List Node} (horder : order'.map Node.unplaced = order.map Node.unplaced) :
    order'.mapM (expandNode g' r s) = order.mapM (expandNode g r s) := by
  induction order generalizing order' with
  | nil =>
      obtain rfl := List.map_eq_nil_iff.mp horder
      rfl
  | cons n order ih =>
      rw [List.map_cons] at horder
      obtain ⟨n', rest, rfl, hnode, hrest⟩ := List.map_eq_cons_iff.mp horder
      rw [List.mapM_cons, List.mapM_cons, expandNode_of_rearranged h hsingle hnode, ih hrest]

/-- A graph with distinct ids has edges between its nodes, no two of which lead into one input. If
no hook looks at places, or no node is moved, then the graph and a rearranged one are valid together.
If they are, the same is generated for both: the same source, or the same fault. -/
theorem generate_of_rearranged (r : Registry) (s : Settings) (hdistinct : g.ids.Nodup)
    (hends : ∀ e ∈ g.edges, e.source ∈ g.ids ∧ e.target ∈ g.ids) (hsingle : g.SingleWires)
    (h : g.Rearranged g') :
    (r.IgnoresPlaces ∨ g'.nodes = g.nodes →
      (validate g r = .ok [] ↔ validate g' r = .ok [])) ∧
    (validate g r = .ok [] → validate g' r = .ok [] → generate g r s = generate g' r s) := by
  have hdistinct' : g'.ids.Nodup := h.ids_eq ▸ hdistinct
  have hvalidity := validate_eq_nil_iff (r := r) hdistinct hends
  have hvalidity' := validate_eq_nil_iff (r := r) hdistinct' (h.ends hends)
  constructor
  · intro hhooks
    rw [hvalidity, hvalidity']
    constructor
    · intro hvalid
      exact hvalid.of_rearranged h hdistinct hhooks
    · intro hvalid
      exact hvalid.of_rearranged h.symm hdistinct' (hhooks.imp_right Eq.symm)
  · intro hvalidate hvalidate'
    have hvalid := hvalidity.mp hvalidate
    obtain ⟨order, horder⟩ := Graph.exists_emissionOrder hvalid.acyclic
    obtain ⟨order', horder', hsame⟩ := h.emissionOrder hdistinct hends horder
    rw [generate_of_valid hvalidate hvalid horder,
      generate_of_valid hvalidate' (hvalidity'.mp hvalidate') horder',
      mapM_expandNode_of_rearranged h hsingle hsame]

end

/-- A number that has a name. -/
def namedType : NodeDefinition where
  name := "Number"
  category := "Numbers"
  description := "A number with a name"
  fields := .ofPairs [("name", ⟨.text, "Name", none, [], .null, true, none⟩)]
  pins := ⟨[], [⟨"number", "f64", none, false⟩], List.nodup_nil, List.nodup_singleton _⟩
  template := "\x7b\x7bname\x7d\x7d"
  hook := some Hook.identifier

/-- A type that prints the difference of its inputs. -/
def differenceType : NodeDefinition where
  name := "Difference"
  category := "Numbers"
  description := "Prints a difference"
  fields := .empty
  pins := ⟨[⟨"left", "f64", none, false⟩, ⟨"right", "f64", none, false⟩], [], by decide,
    List.nodup_nil⟩
  template := "print(\x7b\x7bleft\x7d\x7d - \x7b\x7bright\x7d\x7d);"
  hook := none

def differences : Registry := (Registry.empty.add namedType).add differenceType

def difference : Graph where
  nodes := [⟨"a", "Number", .origin, [(.text "name", .text "x")]⟩,
    ⟨"b", "Number", .origin, [(.text "name", .text "y")]⟩, ⟨"c", "Difference", .origin, []⟩]
  edges := [⟨"e", "a", .text "number", "c", .text "left"⟩,
    ⟨"f", "b", .text "number", "c", .text "right"⟩]

/-- The same difference with all nodes moved, and the edges turned around under other ids. -/
def movedDifference : Graph where
  nodes := difference.nodes.map fun n => { n with position := ⟨.nan, .ofRatio false 1 2⟩ }
  edges := [⟨"e", "b", .text "number", "c", .text "right"⟩,
    ⟨"g", "a", .text "number", "c", .text "left"⟩]

theorem movedDifference_alike :
    difference.ids.Nodup ∧
      (∀ e ∈ difference.edges, e.source ∈ difference.ids ∧ e.target ∈ difference.ids) ∧
      difference.SingleWires ∧ difference.Rearranged movedDifference ∧
      differences.IgnoresPlaces ∧ validate difference differences = .ok [] ∧
      validate movedDifference differences = .ok [] ∧
      generate difference differences .standard =
        generate movedDifference differences .standard := by
  have hdistinct : difference.ids.Nodup := by decide
  have hends : ∀ e ∈ difference.edges,
      e.source ∈ difference.ids ∧ e.target ∈ difference.ids := by decide
  have hsingle : difference.SingleWires := by simp [Graph.SingleWires, difference]
  have hmoved : difference.Rearranged movedDifference := ⟨rfl, .swap _ _ _⟩
  have hidentifier : Hook.identifier.IgnoresPlaces :=
    Hook.ignoresPlaces_of_builtin ⟨"identifier", rfl⟩
  have hignores : differences.IgnoresPlaces :=
    (Registry.allHooks_empty.insert _ (by simpa [namedType] using hidentifier)).insert _
      (by simp [differenceType])
  have hvalidate : validate difference differences = .ok [] := by decide +kernel
  obtain ⟨hiff, hsame⟩ :=
    generate_of_rearranged differences .standard hdistinct hends hsingle hmoved
  have hvalidate' := (hiff (.inl hignores)).mp hvalidate
  exact ⟨hdistinct, hends, hsingle, hmoved, hignores, hvalidate, hvalidate',
    hsame hvalidate hvalidate'⟩

/-- A hook that looks at the place of a node. -/
def Hook.atOrigin : Hook :=
  ⟨2, fun n => if n.position = .origin then [] else ["A number stands at the origin"]⟩

def rootedDifferences : Registry :=
  (Registry.empty.add { namedType with hook := some Hook.atOrigin }).add differenceType

/-- A hook that looks at places finds a moved graph invalid. What is generated for a valid graph need
not be a source, nor a fault that names a placeholder. -/
theorem movedDifference_told_apart :
    (difference.ids.Nodup ∧
      (∀ e ∈ difference.edges, e.source ∈ difference.ids ∧ e.target ∈ difference.ids) ∧
      difference.SingleWires ∧ difference.Rearranged movedDifference ∧
      validate difference rootedDifferences = .ok [] ∧
      validate movedDifference rootedDifferences ≠ .ok []) ∧
    longNote.ids.Nodup ∧ longNote.edges = [] ∧ longNote.Rearranged longNote ∧
      validate longNote textNotes = .ok [] ∧
      generate longNote textNotes .standard = .error .wrongShape := by
  refine ⟨⟨by decide, by decide, ?_, ⟨rfl, .swap _ _ _⟩, by decide +kernel, by decide +kernel⟩,
    by decide, rfl, ⟨rfl, .refl _⟩, validate_longNote, generate_longNote⟩
  simp [Graph.SingleWires, difference]

end NodeGraph
