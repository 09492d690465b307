import NodeGraph.Proofs.Generation.Uniformity

/-!
# The grammar of placeholders

A placeholder names a field, an input or an output of its type, with or without a word for what it
is, or the id of the node. `Documents` lists these forms; the names in them have no dot. Apart from
a bare name with a dot before it, what has none of these forms stands for nothing, and this is so
for all nodes of the type.

A field or pin whose name has a dot may be declared, but no placeholder means it: the name is cut at
the last dot.
-/

namespace NodeGraph

open Template (Piece Reference Spells)

variable {d : NodeDefinition} {x : Expansion} {inner : List Char}

/-! ## The forms of references -/

namespace NodeDefinition

/-- A field of the type has this name. -/
def DeclaresField (d : NodeDefinition) (name : String) : Prop :=
  ∃ spec, d.fields.get? name = some spec

/-- An input of the type has this name. -/
def DeclaresInput (d : NodeDefinition) (name : String) : Prop :=
  ∃ pin ∈ d.pins.inputs, pin.name = name

/-- An output of the type has this name. -/
def DeclaresOutput (d : NodeDefinition) (name : String) : Prop :=
  ∃ pin ∈ d.pins.outputs, pin.name = name

/-- The references to what the type declares, and to the id of a node. -/
inductive Documents (d : NodeDefinition) : List Char → Prop where
  | field {name : List Char} (simple : '.' ∉ name)
      (declared : d.DeclaresField (String.ofList name)) :
      d.Documents ("fields".toList ++ '.' :: name)
  | input {name : List Char} (simple : '.' ∉ name)
      (declared : d.DeclaresInput (String.ofList name)) :
      d.Documents ("inputs".toList ++ '.' :: name)
  | output {name : List Char} (simple : '.' ∉ name)
      (declared : d.DeclaresOutput (String.ofList name)) :
      d.Documents ("outputs".toList ++ '.' :: name)
  | id : d.Documents "id".toList
  | bare {name : List Char} (simple : '.' ∉ name)
      (declared : d.DeclaresField (String.ofList name) ∨ d.DeclaresInput (String.ofList name) ∨
        d.DeclaresOutput (String.ofList name)) :
      d.Documents name

section

variable {name : String}

theorem isSome_field_iff : (d.fields.get? name).isSome = true ↔ d.DeclaresField name :=
  Option.isSome_iff_exists

theorem isSome_input_iff : (d.pins.input? name).isSome = true ↔ d.DeclaresInput name := by
  simp [PinSet.input?, DeclaresInput]

theorem isSome_output_iff : (d.pins.output? name).isSome = true ↔ d.DeclaresOutput name := by
  simp [PinSet.output?, DeclaresOutput]

theorem knows_bare_iff : d.knows (.bare name) = true ↔
    (d.DeclaresField name ∨ d.DeclaresInput name ∨ d.DeclaresOutput name) ∨ name = "id" := by
  simp only [knows, Bool.or_eq_true, isSome_field_iff, isSome_input_iff, isSome_output_iff,
    decide_eq_true_eq, or_assoc]

end

theorem exists_spells_of_documents {cs : List Char} (h : d.Documents cs) :
    ∃ ref, Spells cs ref ∧ d.knows ref = true := by
  cases h with
  | field simple declared => exact ⟨_, .field simple, isSome_field_iff.mpr declared⟩
  | input simple declared => exact ⟨_, .input simple, isSome_input_iff.mpr declared⟩
  | output simple declared => exact ⟨_, .output simple, isSome_output_iff.mpr declared⟩
  | id => exact ⟨.bare "id", .bare (by decide), knows_bare_iff.mpr (.inr rfl)⟩
  | bare simple declared => exact ⟨_, .bare simple, knows_bare_iff.mpr (.inl declared)⟩

theorem knows_of_documents (h : d.Documents (trimChars isBlank inner)) :
    d.knows (.ofInner inner) = true := by
  obtain ⟨ref, hspells, hknows⟩ := exists_spells_of_documents h
  rwa [Template.ofInner_of_spells hspells]

/-- What is known has one of the forms, or is a bare name behind a dot. -/
theorem documents_of_knows (h : d.knows (.ofInner inner) = true)
    (hdot : ∀ name, '.' ∉ name → trimChars isBlank inner ≠ '.' :: name) :
    d.Documents (trimChars isBlank inner) := by
  obtain ⟨ref, hspells⟩ := Template.exists_spells (trimChars isBlank inner)
  rw [Template.ofInner_of_spells hspells] at h
  generalize trimChars isBlank inner = cs at hspells hdot
  cases hspells with
  | field simple => exact .field simple (isSome_field_iff.mp h)
  | input simple => exact .input simple (isSome_input_iff.mp h)
  | output simple => exact .output simple (isSome_output_iff.mp h)
  | bare simple =>
      rcases knows_bare_iff.mp h with declared | hid
      · exact .bare simple declared
      · rw [← String.toList_ofList (l := cs), hid]
        exact .id
  | @dot name simple => exact absurd rfl (hdot name simple)
  | unknown => cases h

theorem knows_iff_documents (hdot : ∀ name, '.' ∉ name → trimChars isBlank inner ≠ '.' :: name) :
    d.knows (.ofInner inner) = true ↔ d.Documents (trimChars isBlank inner) :=
  ⟨fun h => documents_of_knows h hdot, knows_of_documents⟩

end NodeDefinition

/-! ## What is substituted -/

namespace Expansion

theorem exists_inserts_iff : (∃ t, x.Inserts inner t) ↔
    x.definition.knows (.ofInner inner) = true := by
  simp only [inserts_iff, ← isSome_resolve, Option.isSome_iff_exists]

/-- A placeholder stands for something exactly if its text, blanks around it aside, is one of the
documented references to what its type declares. Then it is replaced, if that can be written;
otherwise the template is broken. Nothing is said of a bare name behind a dot. -/
theorem substitution_documented (x : Expansion) (inner : List Char)
    (hdot : ∀ name, '.' ∉ name → trimChars isBlank inner ≠ '.' :: name) :
    ((∃ t, x.Inserts inner t) ↔ x.definition.Documents (trimChars isBlank inner)) ∧
      (x.definition.Documents (trimChars isBlank inner) → x.isWritable (.ofInner inner) = true →
        ∃ t, x.Inserts inner t ∧ x.targets [.placeholder inner] = .ok [t]) ∧
      (¬ x.definition.Documents (trimChars isBlank inner) →
        x.targets [.placeholder inner] = .error (.brokenTemplate x.definition.name
          (String.ofList (Piece.placeholder inner).source) x.node.id)) := by
  have hiff : (∃ t, x.Inserts inner t) ↔ x.definition.Documents (trimChars isBlank inner) :=
    exists_inserts_iff.trans (NodeDefinition.knows_iff_documents hdot)
  refine ⟨hiff, fun hdocuments hwritable => ?_, fun hnone => ?_⟩
  · obtain ⟨t, hinserts⟩ := hiff.mpr hdocuments
    exact ⟨t, hinserts, targets_of_gives
      (.cons (.placeholder (inserts_iff.mp hinserts) hwritable) .nil)⟩
  · refine targets_cons_of_stuck (.unknown (Option.eq_none_iff_forall_ne_some.mpr fun t ht => ?_))
    exact hnone (hiff.mp ⟨t, inserts_iff.mpr ht⟩)

/-- A note with a text and with a field whose name has a dot. -/
def dottedNote : Expansion where
  node := ⟨"n", "Note", .origin, [(.text "text", .text "hello"), (.text "a.b", .text "x")]⟩
  definition := { noteType "" with
    fields := .ofPairs [("text", ⟨.text, "Text", none, [], .null, false, none⟩),
      ("a.b", ⟨.text, "Dotted", none, [], .null, false, none⟩)] }
  edges := []
  unconnectedInput := Settings.standard.unconnectedInput

/-- The text is put in for its name with the word for fields before it, blanks around it aside. -/
theorem dottedNote_field_substituted :
    trimChars isBlank " fields.text ".toList = "fields.text".toList ∧
      ∃ t, dottedNote.Inserts " fields.text ".toList t ∧
        dottedNote.targets [.placeholder " fields.text ".toList] = .ok [t] := by
  have htrim : trimChars isBlank " fields.text ".toList = "fields.text".toList := by decide
  have hdot : ∀ name, '.' ∉ name → trimChars isBlank " fields.text ".toList ≠ '.' :: name := by
    intro name _ heq
    cases htrim.symm.trans heq
  have hdocuments : dottedNote.definition.Documents "fields.text".toList :=
    .field (by decide) ⟨_, rfl⟩
  exact ⟨htrim, (substitution_documented dottedNote " fields.text ".toList hdot).2.1
    (htrim ▸ hdocuments) (by decide +kernel)⟩

/-- The field whose name has a dot is declared, but its name with the word for fields before it
stands for nothing. And the other field is meant by its name behind a dot, which is no documented
form. -/
theorem dottedNote_misread :
    dottedNote.definition.DeclaresField "a.b" ∧
      (∀ t, ¬ dottedNote.Inserts "fields.a.b".toList t) ∧
      (¬ dottedNote.definition.Documents ".text".toList) ∧
      dottedNote.targets [.placeholder ".text".toList] = .ok [.text "hello"] := by
  refine ⟨⟨_, rfl⟩, fun t hinserts => ?_, fun hdocuments => ?_, by decide +kernel⟩
  · have hnone : dottedNote.resolve (.ofInner "fields.a.b".toList) = none := by decide +kernel
    cases hnone.symm.trans (inserts_iff.mp hinserts)
  · -- the only form that starts with a dot is a bare name, and those have none
    generalize hcs : ".text".toList = cs at hdocuments
    cases hdocuments with
    | field | input | output | id => cases hcs
    | bare simple => exact simple (hcs ▸ by decide)

end Expansion

end NodeGraph
