import NodeGraph.Proofs.Generation.References
import NodeGraph.Proofs.Generation.Source

/-!
# Nodes of one type are expanded alike

Whether a reference stands for something, and whether for an output, can be read off the definition
(`knows`, `meansOutput`). The values of a node and what is wired into it only decide about the
texts. So a template is broken for all nodes of its type or for none, and its source is wrapped for
all or for none. What remains to the single node is whether its values can be written.
-/

namespace NodeGraph

open Template (Piece Reference)

/-! ## What the definition decides -/

namespace NodeDefinition

/-- Whether a reference stands for something. -/
def knows (d : NodeDefinition) : Reference → Bool
  | .field name => (d.fields.get? name).isSome
  | .input name => (d.pins.input? name).isSome
  | .output name => (d.pins.output? name).isSome
  | .bare name => (d.fields.get? name).isSome || (d.pins.input? name).isSome ||
      (d.pins.output? name).isSome || name = "id"
  | .unknown => false

/-- Whether a reference stands for an output. Fields and inputs of the same name come first. -/
def meansOutput (d : NodeDefinition) : Reference → Bool
  | .output name => (d.pins.output? name).isSome
  | .bare name => (d.fields.get? name).isNone && (d.pins.input? name).isNone &&
      (d.pins.output? name).isSome
  | _ => false

/-- The source of a node is a `let`: there is one output, and the template refers to none. -/
def Wraps (d : NodeDefinition) : Prop :=
  (∃ pin, d.pins.outputs = [pin]) ∧
    ∀ inner, .placeholder inner ∈ Template.pieces d.template.toList →
      d.meansOutput (.ofInner inner) = false

end NodeDefinition

namespace Expansion

section

variable {x x' : Expansion} {ref : Reference} {target : Target} {piece : Piece}
  {pieces : List Piece} {targets : List Target} {texts : List String} {code : String}

theorem isSome_resolve : (x.resolve ref).isSome = x.definition.knows ref := by
  cases ref with
  | field name | input name | output name =>
      simp [resolve, field?, input?, output?, NodeDefinition.knows]
  | bare name =>
      cases hfield : x.definition.fields.get? name <;>
        cases hinput : x.definition.pins.input? name <;>
          cases houtput : x.definition.pins.output? name <;>
            simp [resolve, field?, input?, output?, NodeDefinition.knows, hfield, hinput, houtput]
      split <;> simp [*]
  | unknown => rfl

theorem isOutput_of_standsFor (h : x.StandsFor ref target) :
    target.isOutput = x.definition.meansOutput ref := by
  cases h with
  | field | wired | unwired => rfl
  | output declared =>
      simp [Target.isOutput, NodeDefinition.meansOutput,
        PinSet.output?_eq_some_iff.mpr ⟨declared, rfl⟩]
  | bareField meant =>
      obtain ⟨declared⟩ := meant
      simp [Target.isOutput, NodeDefinition.meansOutput, declared]
  | bareInput field meant =>
      obtain ⟨text, hinput, rfl⟩ := Option.map_eq_some_iff.mp (standsFor_input_iff.mp meant)
      obtain ⟨pin, hpin, _⟩ := Option.map_eq_some_iff.mp hinput
      simp [Target.isOutput, NodeDefinition.meansOutput, hpin]
  | bareOutput field input meant =>
      obtain ⟨text, houtput, rfl⟩ := Option.map_eq_some_iff.mp (standsFor_output_iff.mp meant)
      obtain ⟨pin, hpin, _⟩ := Option.map_eq_some_iff.mp houtput
      simp [Target.isOutput, NodeDefinition.meansOutput, field, input, hpin]
  | id field input output =>
      simp [Target.isOutput, NodeDefinition.meansOutput, output]

/-! ## Pieces -/

/-- A piece that gives something at one node gives something at another if that can be written, and
an output here is one there. -/
theorem Gives.alike (hdefinition : x'.definition = x.definition) (h : x.Gives piece target)
    (hwritable : ∀ inner, piece = .placeholder inner → x'.isWritable (.ofInner inner) = true) :
    ∃ target', x'.Gives piece target' ∧ target'.isOutput = target.isOutput := by
  cases h with
  | literal c => exact ⟨_, .literal c, rfl⟩
  | @placeholder inner _ resolves _ =>
      have hsome : (x'.resolve (.ofInner inner)).isSome = true := by
        rw [isSome_resolve, hdefinition, ← isSome_resolve, resolves]
        rfl
      obtain ⟨target', resolves'⟩ := Option.isSome_iff_exists.mp hsome
      refine ⟨target', .placeholder resolves' (hwritable inner rfl), ?_⟩
      rw [isOutput_of_standsFor (resolve_eq_some_iff.mp resolves'), hdefinition,
        ← isOutput_of_standsFor (resolve_eq_some_iff.mp resolves)]

theorem gives_alike (hdefinition : x'.definition = x.definition)
    (h : List.Forall₂ x.Gives pieces targets)
    (hwritable : ∀ inner, .placeholder inner ∈ pieces → x'.isWritable (.ofInner inner) = true) :
    ∃ targets', List.Forall₂ x'.Gives pieces targets' := by
  induction h with
  | nil => exact ⟨[], .nil⟩
  | cons hfirst _ ih =>
      obtain ⟨target', hgives, _⟩ := hfirst.alike hdefinition fun inner heq =>
        hwritable inner (heq ▸ List.mem_cons_self)
      obtain ⟨targets', hrest⟩ := ih fun inner hmem => hwritable inner (List.mem_cons_of_mem _ hmem)
      exact ⟨target' :: targets', .cons hgives hrest⟩

/-- Something that is put in is an output just if a reference of the template means one. -/
theorem any_isOutput_iff (h : List.Forall₂ x.Gives pieces targets) :
    targets.any (·.isOutput) = true ↔ ∃ inner, .placeholder inner ∈ pieces ∧
      x.definition.meansOutput (.ofInner inner) = true := by
  induction h with
  | nil => simp
  | cons hfirst _ ih =>
      rw [List.any_cons, Bool.or_eq_true, ih]
      cases hfirst with
      | literal c => simp [Target.isOutput]
      | placeholder resolves =>
          rw [isOutput_of_standsFor (resolve_eq_some_iff.mp resolves)]
          simp only [List.mem_cons, Piece.placeholder.injEq, or_and_right, exists_or,
            exists_eq_left]

/-! ## Expansions -/

/-- The source is the text of the template as the value of a `let`. -/
def IsLet (x : Expansion) (code : String) : Prop :=
  ∃ texts pin, List.Forall₂ (fun piece text => x.text? piece = some text)
      (Template.pieces x.definition.template.toList) texts ∧
    x.definition.pins.outputs = [pin] ∧
    code = "let " ++ outputIdentifier x.node.id pin.name ++ " = " ++
      trimBlank (String.join texts) ++ ";"

theorem texts_of_gives (h : List.Forall₂ x.Gives pieces targets)
    (htexts : List.Forall₂ (fun piece text => x.text? piece = some text) pieces texts) :
    texts = targets.map Target.string := by
  refine List.right_unique_forall₂' ?_ htexts
    (List.forall₂_map_right_iff.mpr (h.imp fun _ _ hgives => hgives.text?_eq))
  intro piece text text' htext htext'
  exact Option.some.inj (htext.symm.trans htext')

/-- Whether a source is wrapped is a matter of the definition. -/
theorem isLet_iff_wraps (h : x.expand = .ok code) : x.IsLet code ↔ x.definition.Wraps := by
  obtain ⟨targets, htargets, _⟩ := bind_eq_ok_iff.mp h
  have hgives := gives_of_targets htargets
  by_cases hplain : x.definition.pins.outputs.length ≠ 1 ∨ targets.any (·.isOutput) = true
  · have hcode := Except.ok.inj (h.symm.trans (expand_eq_text hgives hplain))
    refine iff_of_false ?_ ?_
    · -- the text would have to be longer than itself
      rintro ⟨texts, pin, htexts, _, hlet⟩
      rw [texts_of_gives hgives htexts, hcode] at hlet
      have hlength := congrArg String.length hlet
      simp only [String.length_append] at hlength
      have hsemicolon : ";".length = 1 := rfl
      omega
    · rintro ⟨⟨pin, hpin⟩, hnone⟩
      rcases hplain with hlength | houtput
      · exact hlength (by simp [hpin])
      · obtain ⟨inner, hmem, hmeans⟩ := (any_isOutput_iff hgives).mp houtput
        cases (hnone inner hmem).symm.trans hmeans
  · rw [not_or, not_not, Bool.not_eq_true] at hplain
    obtain ⟨hlength, hnone⟩ := hplain
    obtain ⟨pin, hpin⟩ := List.length_eq_one_iff.mp hlength
    have hcode := Except.ok.inj (h.symm.trans (expand_eq_let hgives hpin hnone))
    refine iff_of_true ⟨_, pin, ?_, hpin, hcode⟩ ⟨⟨pin, hpin⟩, fun inner hmem => ?_⟩
    · exact List.forall₂_map_right_iff.mpr (hgives.imp fun _ _ hgives => hgives.text?_eq)
    · rw [← Bool.not_eq_true]
      intro hmeans
      cases hnone.symm.trans ((any_isOutput_iff hgives).mpr ⟨inner, hmem, hmeans⟩)

/-- A template that is broken for one node is broken at the same placeholder for another one, if all
that it refers to there can be written. -/
theorem broken_alike (hdefinition : x'.definition = x.definition) (hwritable : x'.Writable)
    {placeholder : String}
    (h : x.expand = .error (.brokenTemplate x.definition.name placeholder x.node.id)) :
    x'.expand = .error (.brokenTemplate x'.definition.name placeholder x'.node.id) := by
  obtain ⟨front, piece, back, targets, hpieces, hfront, hstuck⟩ :=
    stuck_of_targets (expand_eq_error_iff.mp h)
  obtain ⟨targets', hfront'⟩ := gives_alike hdefinition hfront fun inner hmem => by
    refine hwritable inner ?_
    rw [hdefinition, hpieces]
    exact List.mem_append_left _ hmem
  rw [expand_eq_error_iff, hdefinition, hpieces]
  refine targets_of_stuck hfront' ?_ _
  generalize hfault : Fault.brokenTemplate x.definition.name placeholder x.node.id = fault at hstuck
  cases hstuck with
  | unwritable => cases hfault
  | @unknown inner unresolved =>
      obtain ⟨-, rfl, -⟩ := Fault.brokenTemplate.inj hfault
      rw [← hdefinition]
      refine .unknown (Option.not_isSome_iff_eq_none.mp ?_)
      rw [isSome_resolve, hdefinition, ← isSome_resolve, unresolved]
      exact Bool.false_ne_true

theorem Writable.of_expand (h : x.expand = .ok code) : x.Writable := by
  obtain ⟨targets, htargets, _⟩ := bind_eq_ok_iff.mp h
  intro inner hmem
  obtain ⟨target, _, hgives⟩ := exists_right_of_forall₂ (gives_of_targets htargets) hmem
  cases hgives with
  | placeholder _ writable => exact writable

/-- All nodes of a type whose values can be written fail at the same placeholder, if there is one.
The sources of two nodes are both wrapped or both not. Once a node has a source, another one has one
too, unless it holds what cannot be written. -/
theorem expand_alike (hdefinition : x'.definition = x.definition) :
    (x.Writable → x'.Writable → ∀ placeholder,
      (x.expand = .error (.brokenTemplate x.definition.name placeholder x.node.id) ↔
        x'.expand = .error (.brokenTemplate x'.definition.name placeholder x'.node.id))) ∧
    (∀ code code', x.expand = .ok code → x'.expand = .ok code' →
      (x.IsLet code ↔ x'.IsLet code')) ∧
    ∀ code, x.expand = .ok code →
      (∃ code', x'.expand = .ok code') ∨ x'.expand = .error .wrongShape ∧ ¬ x'.Writable := by
  refine ⟨fun hwritable hwritable' placeholder => ⟨?_, ?_⟩, ?_, ?_⟩
  · exact broken_alike hdefinition hwritable'
  · exact broken_alike hdefinition.symm hwritable
  · intro code code' hcode hcode'
    rw [isLet_iff_wraps hcode, isLet_iff_wraps hcode', hdefinition]
  · intro code hcode
    cases hexpand : x'.expand with
    | ok code' => exact .inl ⟨code', rfl⟩
    | error fault =>
        rcases expand_error hexpand with ⟨placeholder, rfl⟩ | ⟨rfl, hlong⟩
        · have hbroken := broken_alike hdefinition.symm (.of_expand hcode) hexpand
          cases hcode.symm.trans hbroken
        · exact .inr ⟨rfl, hlong⟩

end

/-! ## A broken template -/

/-- The template refers to the text and then to something that the type does not have. -/
def brokenNoteType : NodeDefinition := noteType "\x7b\x7btext\x7d\x7d \x7b\x7bmissing\x7d\x7d"

def brokenNote (v : Value) : Expansion :=
  ⟨note v, brokenNoteType, [], Settings.standard.unconnectedInput⟩

theorem definition_brokenNote (v : Value) : (brokenNote v).definition = brokenNoteType := rfl

theorem pieces_brokenNote :
    Template.pieces brokenNoteType.template.toList =
      [.placeholder "text".toList, .literal ' ', .placeholder "missing".toList] := by
  decide

theorem writable_brokenNote {v : Value} (h : v.isWritable = true) : (brokenNote v).Writable := by
  intro inner hmem
  have hmem : .placeholder inner ∈ Template.pieces brokenNoteType.template.toList := hmem
  rw [pieces_brokenNote] at hmem
  simp only [List.mem_cons, Piece.placeholder.injEq, reduceCtorEq, false_or, List.not_mem_nil,
    or_false] at hmem
  rcases hmem with rfl | rfl
  · exact isWritable_note.trans h
  · rfl

theorem expand_brokenNote_one :
    (brokenNote (.int 1)).expand =
      .error (.brokenTemplate "Note" "\x7b\x7bmissing\x7d\x7d" "a") := by
  have hgives : (brokenNote (.int 1)).Gives (.placeholder "text".toList) (.text _) :=
    .placeholder rfl (isWritable_note.trans rfl)
  have hfront : List.Forall₂ (brokenNote (.int 1)).Gives
      [.placeholder "text".toList, .literal ' '] _ := .cons hgives (.cons (.literal ' ') .nil)
  rw [expand_eq_error_iff]
  refine (congrArg _ pieces_brokenNote).trans ?_
  exact targets_of_stuck hfront (.unknown rfl) _

/-- A text that looks like a placeholder does not mend the template. -/
theorem brokenNote_alike :
    (brokenNote (.text "\x7b\x7bid\x7d\x7d")).definition = (brokenNote (.int 1)).definition ∧
      (brokenNote (.int 1)).Writable ∧ (brokenNote (.text "\x7b\x7bid\x7d\x7d")).Writable ∧
      (brokenNote (.text "\x7b\x7bid\x7d\x7d")).expand =
        .error (.brokenTemplate "Note" "\x7b\x7bmissing\x7d\x7d" "a") := by
  have hdefinition : (brokenNote (.text "\x7b\x7bid\x7d\x7d")).definition =
      (brokenNote (.int 1)).definition := rfl
  have hwritable : (brokenNote (.int 1)).Writable := writable_brokenNote rfl
  have hwritable' : (brokenNote (.text "\x7b\x7bid\x7d\x7d")).Writable := writable_brokenNote rfl
  refine ⟨hdefinition, hwritable, hwritable', ?_⟩
  exact ((expand_alike hdefinition).1 hwritable hwritable' _).mp expand_brokenNote_one

/-- Of two nodes of the type the template is broken for one. The other one fails at the text before,
which cannot be written. -/
theorem brokenNote_unlike :
    (brokenNote tooLong).definition = (brokenNote (.int 1)).definition ∧
      (brokenNote (.int 1)).expand =
        .error (.brokenTemplate "Note" "\x7b\x7bmissing\x7d\x7d" "a") ∧
      (brokenNote tooLong).expand = .error .wrongShape := by
  refine ⟨(definition_brokenNote _).trans (definition_brokenNote _).symm, expand_brokenNote_one, ?_⟩
  rw [expand_eq_error_iff]
  refine (congrArg _ pieces_brokenNote).trans (targets_cons_of_stuck (.unwritable rfl ?_))
  exact isWritable_note.trans not_isWritable_tooLong

end Expansion

end NodeGraph
