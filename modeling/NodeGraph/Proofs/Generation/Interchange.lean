import NodeGraph.Proofs.Generation.Source
import NodeGraph.Proofs.Validation.Interchange

/-!
# Generation under equal definitions

A template refers to fields and pins by their names, so the order in which a definition lists its
fields makes no difference to the source of a node. Graphs that are validated alike therefore have
the same source, and where they are not valid the reports differ as the messages do.
-/

namespace NodeGraph

variable {g g' : Graph} {r r' : Registry} {s : Settings}

/-- The expansions of two nodes alike, under definitions that match. -/
theorem NodeDefinition.Matches.alike {a b : NodeDefinition} (h : a.Matches b) (hg : g.Alike g')
    {n m : Node} (hn : n.Alike m) (s : Settings) :
    (expansionOf g s n a).Alike (expansionOf g' s m b) := by
  have hedge : (expansionOf g' s m b).edge? = (expansionOf g s n a).edge? := by
    funext name
    show g'.edges.find? (fun e => e.target = m.id && (Value.text name).eqv e.targetInput) = _
    rw [hg.edges, hn.id]
    rfl
  have hfield : ∀ name, (expansionOf g' s m b).fieldValue? name =
      (expansionOf g s n a).fieldValue? name := by
    intro name
    have hname := h.fields name
    simp only [Expansion.fieldValue?, expansionOf, hn.field]
    generalize a.fields.get? name = x, b.fields.get? name = y at hname ⊢
    cases hname <;> rfl
  have hinput : ∀ name, (expansionOf g' s m b).definition.pins.input? name =
      (expansionOf g s n a).definition.pins.input? name := by
    intro name
    simp only [expansionOf, h.pins]
  refine ⟨hn.id, h.name, h.template, ?_, hfield, ?_, ?_⟩
  · simp only [expansionOf, h.pins]
  · intro name
    unfold Expansion.input?
    rw [hinput, hedge]
    rfl
  · intro name
    unfold Expansion.wiredPin?
    rw [hinput, hedge]

theorem expandNode_eq (h : g.Alike g') (hr : r.Match r') {n m : Node} (hn : n.Alike m) :
    expandNode g' r' s m = expandNode g r s n := by
  have htype := hr n.type
  unfold expandNode Registry.require
  rw [hn.type]
  generalize r.get? n.type = x, r'.get? n.type = y at htype ⊢
  cases htype with
  | none => rfl
  | some hmatches => exact (hmatches.alike h hn s).expand_eq

theorem mapM_expandNode_eq (h : g.Alike g') (hr : r.Match r') {nodes nodes' : List Node}
    (hnodes : List.Forall₂ Node.Alike nodes nodes') :
    nodes'.mapM (expandNode g' r' s) = nodes.mapM (expandNode g r s) := by
  induction hnodes with
  | nil => rfl
  | cons hn _ ih => rw [List.mapM_cons, List.mapM_cons, expandNode_eq h hr hn, ih]

theorem generateCode_eq (h : g.Alike g') (hr : r.Match r') :
    generateCode g' r' s = generateCode g r s := by
  have horder : ∀ vertices : List String,
      List.Forall₂ Node.Alike (vertices.filterMap g.node?) (vertices.filterMap g'.node?) := by
    intro vertices
    refine List.rel_filterMap (R := Eq) ?_ (List.forall₂_refl _)
    rintro v _ rfl
    exact h.node? v
  unfold generateCode Graph.emissionOrder
  rw [h.edges, h.shape.sortedVertices_eq]
  cases g.sortedVertices with
  | none => rfl
  | some vertices =>
      show (do
        if (g.edges.any fun e => !e.targetInput.isKey) = true then throw Fault.wrongKind
        let chunks ← (vertices.filterMap g'.node?).mapM (expandNode g' r' s)
        _) = _
      rw [mapM_expandNode_eq h hr (horder vertices)]
      rfl

/-- If the fields are listed in the same order, the outcome is the same. -/
theorem generate_eq (h : g.Alike g') (hr : r.Match r') (horder : r.SameOrder r') :
    generate g r s = generate g' r' s := by
  unfold generate
  rw [validate_eq h hr horder, generateCode_eq h hr]

/-- A graph that is valid under one of two definitions that match has the same outcome under both. -/
theorem generate_eq_of_valid (h : g.Alike g') (hr : r.Match r') (hvalid : validate g r = .ok []) :
    validate g' r' = .ok [] ∧ generate g r s = generate g' r' s := by
  have hcorresponds := validate_corresponds h hr
  rw [hvalid] at hcorresponds
  generalize hvalid' : validate g' r' = outcome at hcorresponds
  cases hcorresponds with
  | ok hnone =>
      cases hnone
      rw [generate_of_no_messages hvalid, generate_of_no_messages hvalid', generateCode_eq h hr]
      exact ⟨rfl, rfl⟩

/-- The texts are reports with the same messages up to their order. -/
def SameReports (s : Settings) (x y : String) : Prop :=
  ∃ errors errors', List.Forall₂ NodeErrors.SameMessages errors errors' ∧
    x = errorReport errors s ∧ y = errorReport errors' s

theorem generate_corresponds (h : g.Alike g') (hr : r.Match r') :
    Corresponds (fun x y => x = y ∨ SameReports s x y) (generate g r s) (generate g' r' s) := by
  unfold generate
  refine (validate_corresponds h hr).bind fun errors errors' hsame => ?_
  have hempty : errors.isEmpty = errors'.isEmpty := by cases hsame <;> rfl
  rw [generateCode_eq h hr, hempty]
  split
  · exact Corresponds.refl (fun _ => .inl rfl) _
  · exact .ok (.inr ⟨errors, errors', hsame, rfl, rfl⟩)

end NodeGraph
