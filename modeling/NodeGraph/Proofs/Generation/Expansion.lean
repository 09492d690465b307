import NodeGraph.Generation
import NodeGraph.Proofs.Outcome
import NodeGraph.Proofs.Wiring

/-!
# Expanding a template

What stands in the source of a node for each piece of its template. A piece that stays as it is
stands for itself, a placeholder for what its reference resolves to. An expansion either has a text
for every piece, or fails at a placeholder that resolves to nothing, or to something that cannot be
written.
-/

namespace NodeGraph

namespace Expansion

open Template (Piece Reference)

variable {x : Expansion}

/-! ## The text of a piece -/

/-- The text that is put in for a piece of the template. -/
def text? (x : Expansion) : Piece → Option String
  | .literal c => some c.toString
  | .placeholder inner => (x.resolve (.ofInner inner)).map Target.string

/-- The source of a node as the texts of the pieces of its template, joined and trimmed. It may be
the value that is given to the only output. -/
structure Renders (x : Expansion) (texts : List String) (code : String) : Prop where
  pieces : List.Forall₂ (fun piece text => x.text? piece = some text)
    (Template.pieces x.definition.template.toList) texts
  code : code = trimBlank (String.join texts) ∨
    ∃ pin, x.definition.pins.outputs = [pin] ∧
      code = "let " ++ outputIdentifier x.node.id pin.name ++ " = " ++
        trimBlank (String.join texts) ++ ";"

/-! ## Piece by piece -/

/-- What stands for a piece, where it can be written. -/
inductive Gives (x : Expansion) : Piece → Target → Prop where
  | literal (c : Char) : x.Gives (.literal c) (.text c.toString)
  | placeholder {inner : List Char} {target : Target}
      (resolves : x.resolve (.ofInner inner) = some target)
      (writable : x.isWritable (.ofInner inner) = true) : x.Gives (.placeholder inner) target

/-- What an expansion fails with at a piece. -/
inductive Stuck (x : Expansion) : Piece → Fault → Prop where
  | unknown {inner : List Char} (unresolved : x.resolve (.ofInner inner) = none) :
      x.Stuck (.placeholder inner) (.brokenTemplate x.definition.name
        (String.ofList (Piece.placeholder inner).source) x.node.id)
  | unwritable {inner : List Char} {target : Target}
      (resolves : x.resolve (.ofInner inner) = some target)
      (long : x.isWritable (.ofInner inner) = false) : x.Stuck (.placeholder inner) .wrongShape

section

variable {piece : Piece} {pieces front back : List Piece} {target : Target} {targets : List Target}
  {fault : Fault}

theorem Gives.text?_eq (h : x.Gives piece target) : x.text? piece = some target.string := by
  cases h with
  | literal c => rfl
  | placeholder resolves => simp [text?, resolves]

theorem gives_or_stuck (x : Expansion) (piece : Piece) :
    (∃ target, x.Gives piece target) ∨ ∃ fault, x.Stuck piece fault := by
  cases piece with
  | literal c => exact .inl ⟨_, .literal c⟩
  | placeholder inner =>
      cases hresolve : x.resolve (.ofInner inner) with
      | none => exact .inr ⟨_, .unknown hresolve⟩
      | some target =>
          cases hwritable : x.isWritable (.ofInner inner) with
          | true => exact .inl ⟨target, .placeholder hresolve hwritable⟩
          | false => exact .inr ⟨_, .unwritable hresolve hwritable⟩

theorem targets_cons_of_gives (h : x.Gives piece target) :
    x.targets (piece :: pieces) = (x.targets pieces).map (target :: ·) := by
  cases h with
  | literal c => rfl
  | placeholder resolves writable =>
      rw [Expansion.targets, resolves]
      dsimp only
      rw [if_pos writable]
      rfl

theorem targets_cons_of_stuck (h : x.Stuck piece fault) :
    x.targets (piece :: pieces) = .error fault := by
  cases h with
  | unknown unresolved => rw [Expansion.targets, unresolved]
  | unwritable resolves long => simp [Expansion.targets, resolves, long]

theorem targets_of_gives (h : List.Forall₂ x.Gives pieces targets) :
    x.targets pieces = .ok targets := by
  induction h with
  | nil => rfl
  | cons hfirst _ ih =>
      rw [targets_cons_of_gives hfirst, ih]
      rfl

theorem targets_of_stuck (hfront : List.Forall₂ x.Gives front targets)
    (hstuck : x.Stuck piece fault) (back : List Piece) :
    x.targets (front ++ piece :: back) = .error fault := by
  induction hfront with
  | nil => exact targets_cons_of_stuck hstuck
  | cons hfirst _ ih =>
      rw [List.cons_append, targets_cons_of_gives hfirst, ih]
      rfl

theorem gives_of_targets (h : x.targets pieces = .ok targets) :
    List.Forall₂ x.Gives pieces targets := by
  induction pieces generalizing targets with
  | nil =>
      obtain rfl := Except.ok.inj h
      exact .nil
  | cons piece pieces ih =>
      rcases x.gives_or_stuck piece with ⟨target, hgives⟩ | ⟨fault, hstuck⟩
      · rw [targets_cons_of_gives hgives] at h
        obtain ⟨rest, hrest, rfl⟩ := map_eq_ok_iff.mp h
        exact .cons hgives (ih hrest)
      · rw [targets_cons_of_stuck hstuck] at h
        cases h

/-- An expansion fails at the first piece that it gets stuck at. -/
theorem stuck_of_targets (h : x.targets pieces = .error fault) :
    ∃ front piece back targets, pieces = front ++ piece :: back ∧
      List.Forall₂ x.Gives front targets ∧ x.Stuck piece fault := by
  induction pieces with
  | nil => cases h
  | cons piece pieces ih =>
      rcases x.gives_or_stuck piece with ⟨target, hgives⟩ | ⟨fault', hstuck⟩
      · rw [targets_cons_of_gives hgives] at h
        obtain ⟨front, stuck, back, targets, rfl, hfront, hstuck⟩ := ih (map_eq_error_iff.mp h)
        exact ⟨piece :: front, stuck, back, target :: targets, rfl, .cons hgives hfront, hstuck⟩
      · rw [targets_cons_of_stuck hstuck] at h
        obtain rfl := Except.error.inj h
        exact ⟨[], piece, pieces, [], rfl, .nil, hstuck⟩

end

/-! ## The whole template -/

/-- All that the template refers to can be written. -/
def Writable (x : Expansion) : Prop :=
  ∀ inner, .placeholder inner ∈ Template.pieces x.definition.template.toList →
    x.isWritable (.ofInner inner) = true

instance : Decidable x.Writable :=
  decidable_of_iff ((Template.pieces x.definition.template.toList).all (fun
      | .literal _ => true
      | .placeholder inner => x.isWritable (.ofInner inner)) = true) (by
    rw [List.all_eq_true]
    constructor
    · intro h inner hmem
      exact h _ hmem
    · intro h piece hmem
      cases piece with
      | literal c => rfl
      | placeholder inner => exact h inner hmem)

theorem expand_renders {code : String} (h : x.expand = .ok code) :
    ∃ texts, x.Renders texts code := by
  obtain ⟨targets, htargets, hcode⟩ := bind_eq_ok_iff.mp h
  refine ⟨targets.map Target.string, List.forall₂_map_right_iff.mpr
    ((gives_of_targets htargets).imp fun _ _ hgives => hgives.text?_eq), ?_⟩
  split at hcode
  · rename_i pin houtputs
    split at hcode
    · exact .inl (Except.ok.inj hcode).symm
    · exact .inr ⟨pin, houtputs, (Except.ok.inj hcode).symm⟩
  · exact .inl (Except.ok.inj hcode).symm

section

variable {targets : List Target}

/-- The source is wrapped if there is one output and the template refers to no output. -/
theorem expand_eq_let {pin : Pin}
    (h : List.Forall₂ x.Gives (Template.pieces x.definition.template.toList) targets)
    (houtputs : x.definition.pins.outputs = [pin]) (hnone : targets.any (·.isOutput) = false) :
    x.expand = .ok ("let " ++ outputIdentifier x.node.id pin.name ++ " = " ++
      trimBlank (String.join (targets.map Target.string)) ++ ";") := by
  refine bind_eq_ok_iff.mpr ⟨targets, targets_of_gives h, ?_⟩
  rw [houtputs]
  dsimp only
  rw [hnone]
  rfl

theorem expand_eq_text
    (h : List.Forall₂ x.Gives (Template.pieces x.definition.template.toList) targets)
    (hplain : x.definition.pins.outputs.length ≠ 1 ∨ targets.any (·.isOutput) = true) :
    x.expand = .ok (trimBlank (String.join (targets.map Target.string))) := by
  refine bind_eq_ok_iff.mpr ⟨targets, targets_of_gives h, ?_⟩
  dsimp only
  split
  · rename_i pin houtputs
    rw [if_pos (hplain.resolve_left (by simp [houtputs]))]
    rfl
  · rfl

end

theorem expand_eq_error_iff {fault : Fault} :
    x.expand = .error fault ↔
      x.targets (Template.pieces x.definition.template.toList) = .error fault := by
  rw [Expansion.expand, bind_eq_error_iff]
  refine or_iff_left ?_
  rintro ⟨targets, _, hcode⟩
  split at hcode
  · split at hcode <;> cases hcode
  · cases hcode

theorem expand_error {fault : Fault} (h : x.expand = .error fault) :
    (∃ placeholder, fault = .brokenTemplate x.definition.name placeholder x.node.id) ∨
      fault = .wrongShape ∧ ¬ x.Writable := by
  obtain ⟨front, piece, back, _, hpieces, _, hstuck⟩ :=
    stuck_of_targets (expand_eq_error_iff.mp h)
  cases hstuck with
  | unknown => exact .inl ⟨_, rfl⟩
  | @unwritable inner _ _ long =>
      refine .inr ⟨rfl, fun hwritable => ?_⟩
      have hmem : .placeholder inner ∈ Template.pieces x.definition.template.toList := by
        simp [hpieces]
      cases (hwritable inner hmem).symm.trans long

/-! ## References to inputs -/

/-- The input that a reference stands for. A bare name stands for one unless it names a field. -/
def inputPin? (x : Expansion) : Reference → Option Pin
  | .input name => x.definition.pins.input? name
  | .bare name => if (x.field? name).isSome then none else x.definition.pins.input? name
  | _ => none

theorem input?_of_mem {pin : Pin} (h : pin ∈ x.definition.pins.inputs) :
    x.input? pin.name = some (match x.edge? pin.name with
      | some e => outputIdentifier e.source e.sourceOutput.display
      | none => x.unconnectedInput) := by
  rw [input?, PinSet.input?_eq_some_iff.mpr ⟨h, rfl⟩]
  rfl

theorem resolve_of_inputPin? {ref : Reference} {pin : Pin} (h : x.inputPin? ref = some pin) :
    pin ∈ x.definition.pins.inputs ∧ x.resolve ref = (x.input? pin.name).map .text := by
  cases ref with
  | input name =>
      obtain ⟨hmem, rfl⟩ := PinSet.input?_eq_some_iff.mp h
      exact ⟨hmem, rfl⟩
  | bare name =>
      simp only [inputPin?] at h
      split at h
      · cases h
      · rename_i hfield
        obtain ⟨hmem, rfl⟩ := PinSet.input?_eq_some_iff.mp h
        refine ⟨hmem, ?_⟩
        simp [resolve, Option.not_isSome_iff_eq_none.mp hfield, input?_of_mem hmem]
  | field name | output name | unknown => cases h

/-- The substitute for unconnected inputs is put in for references to inputs only. -/
theorem text?_of_inputPin?_eq_none {inner : List Char} (h : x.inputPin? (.ofInner inner) = none)
    (substitute : String) :
    { x with unconnectedInput := substitute }.text? (.placeholder inner) =
      x.text? (.placeholder inner) := by
  simp only [text?]
  cases href : Reference.ofInner inner with
  | input name =>
      rw [href] at h
      have hnone : x.definition.pins.input? name = none := h
      simp [resolve, input?, hnone]
  | bare name =>
      rw [href] at h
      simp only [inputPin?] at h
      split at h
      · rename_i hfield
        obtain ⟨text, htext⟩ := Option.isSome_iff_exists.mp hfield
        have htext' : { x with unconnectedInput := substitute }.field? name = some text := htext
        simp [resolve, htext, htext']
      · rename_i hfield
        have hfield' : { x with unconnectedInput := substitute }.field? name = x.field? name := rfl
        have houtput : { x with unconnectedInput := substitute }.output? name = x.output? name := rfl
        simp [resolve, input?, h, hfield', houtput]
  | field name | output name | unknown => rfl

/-! ## The edge into an input -/

theorem edge?_eq_some {name : String} {e : Edge} {g : Graph} (hedges : x.edges = g.edges)
    (h : x.edge? name = some e) : g.FirstInto x.node.id name e := by
  obtain ⟨hends, before, after, heq, hbefore⟩ := List.find?_eq_some_iff_append.mp h
  refine ⟨Edge.endsIn_iff.mp hends, before, after, hedges ▸ heq, fun other hother hothers => ?_⟩
  have hnot := hbefore other hother
  rw [Edge.endsIn_iff.mpr hothers] at hnot
  cases hnot

theorem edge?_eq_none {name : String} (h : x.edge? name = none) :
    ∀ e ∈ x.edges, ¬ e.EndsIn x.node.id name := by
  intro e he hends
  exact List.find?_eq_none.mp h e he (Edge.endsIn_iff.mpr hends)

/-! ## Expansions with the same source -/

/-- The two have the same template, and each reference stands for the same in both. -/
structure Alike (x x' : Expansion) : Prop where
  id : x'.node.id = x.node.id
  name : x'.definition.name = x.definition.name
  template : x'.definition.template = x.definition.template
  outputs : x'.definition.pins.outputs = x.definition.pins.outputs
  fieldValue? : ∀ name, x'.fieldValue? name = x.fieldValue? name
  input? : ∀ name, x'.input? name = x.input? name
  wiredPin? : ∀ name, x'.wiredPin? name = x.wiredPin? name

namespace Alike

variable {x x' : Expansion}

theorem field?_eq (h : x.Alike x') (name : String) : x'.field? name = x.field? name := by
  have hfield : ∀ y : Expansion, y.field? name = (y.fieldValue? name).map Value.render := by
    intro y
    rw [Expansion.fieldValue?, Option.map_map]
    rfl
  rw [hfield, hfield, h.fieldValue?]

theorem output?_eq (h : x.Alike x') (name : String) : x'.output? name = x.output? name := by
  unfold output? PinSet.output?
  rw [h.outputs, h.id]

theorem resolve_eq (h : x.Alike x') (reference : Reference) :
    x'.resolve reference = x.resolve reference := by
  unfold resolve
  simp only [h.field?_eq, h.input?, h.output?_eq, h.id]

theorem isWritable_eq (h : x.Alike x') (reference : Reference) :
    x'.isWritable reference = x.isWritable reference := by
  unfold isWritable
  cases reference <;> simp only [value?, h.fieldValue?, h.wiredPin?]

theorem targets_eq (h : x.Alike x') (pieces : List Piece) :
    x'.targets pieces = x.targets pieces := by
  induction pieces with
  | nil => rfl
  | cons piece rest ih =>
      cases piece with
      | literal c =>
          unfold targets
          rw [ih]
      | placeholder inner =>
          unfold targets
          rw [ih, h.resolve_eq, h.isWritable_eq, h.name, h.id]

theorem expand_eq (h : x.Alike x') : x'.expand = x.expand := by
  unfold expand
  rw [h.targets_eq, h.template, h.outputs, h.id]

end Alike

end Expansion

end NodeGraph
