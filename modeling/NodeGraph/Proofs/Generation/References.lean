import Mathlib.Data.List.TakeWhile
import NodeGraph.Proofs.Generation.Expansion

/-!
# References

How a placeholder names what it refers to, and what the name stands for at a node. `Spells` is the
grammar: a name behind a dot, with a word for its kind before the dot, or a bare name. `StandsFor`
is the lookup; of the things that a bare name may mean the field comes first, then the input, then
the output, and the id of the node last.
-/

namespace NodeGraph

open Template (Reference)

/-! ## How references are written -/

namespace Template

/-- How a reference is written, blanks around it aside. The name stands behind the last dot, and
what is before that dot says of what kind it is. Without a dot, or with nothing before it, the name
is a bare one. -/
inductive Spells : List Char → Reference → Prop where
  | field {name : List Char} (simple : '.' ∉ name) :
      Spells ("fields".toList ++ '.' :: name) (.field (String.ofList name))
  | input {name : List Char} (simple : '.' ∉ name) :
      Spells ("inputs".toList ++ '.' :: name) (.input (String.ofList name))
  | output {name : List Char} (simple : '.' ∉ name) :
      Spells ("outputs".toList ++ '.' :: name) (.output (String.ofList name))
  | bare {name : List Char} (simple : '.' ∉ name) : Spells name (.bare (String.ofList name))
  | dot {name : List Char} (simple : '.' ∉ name) : Spells ('.' :: name) (.bare (String.ofList name))
  | unknown {kind name : List Char} (simple : '.' ∉ name) (some : kind ≠ [])
      (other : kind ≠ "fields".toList ∧ kind ≠ "inputs".toList ∧ kind ≠ "outputs".toList) :
      Spells (kind ++ '.' :: name) .unknown

section

variable {cs inner kind name : List Char} {ref : Reference}

theorem ne_dot_of_mem_reverse (h : '.' ∉ cs) : ∀ c ∈ cs.reverse, decide (c ≠ '.') = true := by
  intro c hc
  rw [decide_eq_true_eq]
  rintro rfl
  exact h (List.mem_reverse.mp hc)

theorem splitLastDot_of_not_mem (h : '.' ∉ cs) : splitLastDot cs = (none, cs) := by
  have hall := ne_dot_of_mem_reverse h
  simp only [splitLastDot, List.takeWhile_eq_self_iff.mpr hall, List.dropWhile_eq_nil_iff.mpr hall,
    List.reverse_reverse]

theorem splitLastDot_append (h : '.' ∉ name) :
    splitLastDot (kind ++ '.' :: name) = (some kind, name) := by
  have hall := ne_dot_of_mem_reverse h
  simp only [splitLastDot, List.reverse_append, List.reverse_cons, List.append_assoc,
    List.singleton_append, List.takeWhile_append_of_pos hall, List.dropWhile_append_of_pos hall]
  simp

theorem ofInner_of_spells (h : Spells (trimChars isBlank inner) ref) :
    Reference.ofInner inner = ref := by
  unfold Reference.ofInner
  generalize trimChars isBlank inner = cs at h ⊢
  cases h with
  | field simple | input simple | output simple =>
      rw [splitLastDot_append simple]
      rfl
  | bare simple =>
      rw [splitLastDot_of_not_mem simple]
      rfl
  | @dot name simple =>
      rw [← List.nil_append ('.' :: name), splitLastDot_append simple]
      rfl
  | @unknown kind name simple some other =>
      have hword {word : String} (h : Option.some (String.ofList kind) = Option.some word) :
          kind = word.toList := by
        rw [← Option.some.inj h, String.toList_ofList]
      rw [splitLastDot_append simple]
      dsimp only [Option.map_some]
      split
      · rename_i heq
        cases heq
      · rename_i heq
        exact absurd (hword heq) some
      · rename_i heq
        exact absurd (hword heq) other.1
      · rename_i heq
        exact absurd (hword heq) other.2.1
      · rename_i heq
        exact absurd (hword heq) other.2.2
      · rfl

/-- All texts are references of some kind, if only of an unknown one. -/
theorem exists_spells (cs : List Char) : ∃ ref, Spells cs ref := by
  by_cases hdot : '.' ∈ cs
  · -- the first dot from behind
    obtain ⟨after, before, hreverse, hafter⟩ :=
      List.eq_append_cons_of_mem (List.mem_reverse.mpr hdot)
    have hsplit : cs = before.reverse ++ '.' :: after.reverse := by
      rw [← List.reverse_reverse cs, hreverse]
      simp
    have hsimple : '.' ∉ after.reverse := fun h => hafter (List.mem_reverse.mp h)
    rw [hsplit]
    generalize before.reverse = kind
    by_cases hsome : kind = []
    · subst hsome
      exact ⟨_, .dot hsimple⟩
    by_cases hfield : kind = "fields".toList
    · subst hfield
      exact ⟨_, .field hsimple⟩
    by_cases hinput : kind = "inputs".toList
    · subst hinput
      exact ⟨_, .input hsimple⟩
    by_cases houtput : kind = "outputs".toList
    · subst houtput
      exact ⟨_, .output hsimple⟩
    · exact ⟨_, .unknown hsimple hsome ⟨hfield, hinput, houtput⟩⟩
  · exact ⟨_, .bare hdot⟩

theorem ofInner_eq_iff :
    Reference.ofInner inner = ref ↔ Spells (trimChars isBlank inner) ref := by
  constructor
  · rintro rfl
    obtain ⟨ref, h⟩ := exists_spells (trimChars isBlank inner)
    rw [ofInner_of_spells h]
    exact h
  · exact ofInner_of_spells

end

end Template

/-! ## What references stand for -/

namespace Expansion

/-- What a reference stands for at a node. -/
inductive StandsFor (x : Expansion) : Reference → Target → Prop where
  | field {name : String} {spec : FieldSpec}
      (declared : x.definition.fields.get? name = some spec) :
      x.StandsFor (.field name) (.text (x.node.field name).render)
  | wired {pin : Pin} {e : Edge} (declared : pin ∈ x.definition.pins.inputs)
      (edge : x.edge? pin.name = some e) :
      x.StandsFor (.input pin.name) (.text (outputIdentifier e.source e.sourceOutput.display))
  | unwired {pin : Pin} (declared : pin ∈ x.definition.pins.inputs)
      (edge : x.edge? pin.name = none) :
      x.StandsFor (.input pin.name) (.text x.unconnectedInput)
  | output {pin : Pin} (declared : pin ∈ x.definition.pins.outputs) :
      x.StandsFor (.output pin.name) (.output (outputIdentifier x.node.id pin.name))
  | bareField {name : String} {t : Target} (meant : x.StandsFor (.field name) t) :
      x.StandsFor (.bare name) t
  | bareInput {name : String} {t : Target} (field : x.definition.fields.get? name = none)
      (meant : x.StandsFor (.input name) t) : x.StandsFor (.bare name) t
  | bareOutput {name : String} {t : Target} (field : x.definition.fields.get? name = none)
      (input : x.definition.pins.input? name = none) (meant : x.StandsFor (.output name) t) :
      x.StandsFor (.bare name) t
  | id (field : x.definition.fields.get? "id" = none) (input : x.definition.pins.input? "id" = none)
      (output : x.definition.pins.output? "id" = none) :
      x.StandsFor (.bare "id") (.text x.node.id)

section

variable {x : Expansion} {ref : Reference} {name : String} {t : Target}

theorem field?_eq_none_iff : x.field? name = none ↔ x.definition.fields.get? name = none :=
  Option.map_eq_none_iff

theorem input?_eq_none_iff : x.input? name = none ↔ x.definition.pins.input? name = none :=
  Option.map_eq_none_iff

theorem output?_eq_none_iff : x.output? name = none ↔ x.definition.pins.output? name = none :=
  Option.map_eq_none_iff

theorem standsFor_field_iff :
    x.StandsFor (.field name) t ↔ (x.field? name).map .text = some t := by
  constructor
  · rintro ⟨declared⟩
    simp [field?, declared]
  · intro h
    obtain ⟨text, hfield, rfl⟩ := Option.map_eq_some_iff.mp h
    obtain ⟨spec, declared, rfl⟩ := Option.map_eq_some_iff.mp hfield
    exact .field declared

theorem standsFor_input_iff :
    x.StandsFor (.input name) t ↔ (x.input? name).map .text = some t := by
  constructor
  · rintro (_ | ⟨declared, edge⟩ | ⟨declared, edge⟩)
    · rw [input?_of_mem declared, edge]
      rfl
    · rw [input?_of_mem declared, edge]
      rfl
  · intro h
    obtain ⟨text, hinput, rfl⟩ := Option.map_eq_some_iff.mp h
    obtain ⟨pin, hpin, -⟩ := Option.map_eq_some_iff.mp hinput
    obtain ⟨declared, rfl⟩ := PinSet.input?_eq_some_iff.mp hpin
    obtain rfl := Option.some.inj ((input?_of_mem declared).symm.trans hinput)
    cases hedge : x.edge? pin.name with
    | some e => exact .wired declared hedge
    | none => exact .unwired declared hedge

theorem standsFor_output_iff :
    x.StandsFor (.output name) t ↔ (x.output? name).map .output = some t := by
  constructor
  · rintro (_ | _ | _ | ⟨declared⟩)
    simp [output?, PinSet.output?_eq_some_iff.mpr ⟨declared, rfl⟩]
  · intro h
    obtain ⟨text, houtput, rfl⟩ := Option.map_eq_some_iff.mp h
    obtain ⟨pin, hpin, rfl⟩ := Option.map_eq_some_iff.mp houtput
    obtain ⟨declared, rfl⟩ := PinSet.output?_eq_some_iff.mp hpin
    exact .output declared

theorem standsFor_of_resolve (h : x.resolve ref = some t) : x.StandsFor ref t := by
  cases ref with
  | field name => exact standsFor_field_iff.mpr h
  | input name => exact standsFor_input_iff.mpr h
  | output name => exact standsFor_output_iff.mpr h
  | bare name =>
      rw [resolve] at h
      split at h
      · rename_i hfield
        exact .bareField (standsFor_field_iff.mpr (hfield ▸ h))
      · rename_i hfield hinput
        exact .bareInput (field?_eq_none_iff.mp hfield) (standsFor_input_iff.mpr (hinput ▸ h))
      · rename_i hfield hinput houtput
        exact .bareOutput (field?_eq_none_iff.mp hfield) (input?_eq_none_iff.mp hinput)
          (standsFor_output_iff.mpr (houtput ▸ h))
      · rename_i hfield hinput houtput
        split at h
        · rename_i hid
          obtain rfl := hid
          obtain rfl := Option.some.inj h
          exact .id (field?_eq_none_iff.mp hfield) (input?_eq_none_iff.mp hinput)
            (output?_eq_none_iff.mp houtput)
        · cases h
  | unknown => cases h

theorem resolve_eq_some_iff : x.resolve ref = some t ↔ x.StandsFor ref t := by
  refine ⟨standsFor_of_resolve, fun h => ?_⟩
  induction h with
  | field declared => exact standsFor_field_iff.mp (.field declared)
  | wired declared edge => exact standsFor_input_iff.mp (.wired declared edge)
  | unwired declared edge => exact standsFor_input_iff.mp (.unwired declared edge)
  | output declared => exact standsFor_output_iff.mp (.output declared)
  | bareField _ ih =>
      obtain ⟨text, htext, rfl⟩ := Option.map_eq_some_iff.mp ih
      simp [resolve, htext]
  | bareInput field _ ih =>
      obtain ⟨text, htext, rfl⟩ := Option.map_eq_some_iff.mp ih
      simp [resolve, field?_eq_none_iff.mpr field, htext]
  | bareOutput field input _ ih =>
      obtain ⟨text, htext, rfl⟩ := Option.map_eq_some_iff.mp ih
      simp [resolve, field?_eq_none_iff.mpr field, input?_eq_none_iff.mpr input, htext]
  | id field input output =>
      simp [resolve, field?_eq_none_iff.mpr field, input?_eq_none_iff.mpr input,
        output?_eq_none_iff.mpr output]

/-- What is put in for the placeholder with `inner` between its braces. -/
def Inserts (x : Expansion) (inner : List Char) (t : Target) : Prop :=
  ∃ ref, Template.Spells (trimChars isBlank inner) ref ∧ x.StandsFor ref t

theorem inserts_iff {inner : List Char} :
    x.Inserts inner t ↔ x.resolve (.ofInner inner) = some t := by
  simp only [Inserts, ← Template.ofInner_eq_iff, ← resolve_eq_some_iff, exists_eq_left']

end

end Expansion

end NodeGraph
