import NodeGraph.Proofs.Registry.Patterns
import NodeGraph.Proofs.Registry.Reloading
import NodeGraph.Proofs.Yaml.Refusal

/-!
# What a faulty document is reported as

Loading a text stops at the first document that defines no node type, and most often says so, with
the number of the document. Two kinds of document are not reported like that, but with a fault of
their own that carries no number: those with a scalar that its tag does not fit, and those that
declare a pattern which repeats something more often than can be counted.
-/

namespace NodeGraph

variable {hooks : HookTable} {text segment : String} {fault : Fault}

/-! ## Documents -/

/-- The faults of a document that do not say that it is no definition, and when it has them. -/
inductive Escapes (hooks : HookTable) (text : String) : Fault → Prop
  | unreadable {f : Yaml.Fault} (hread : Yaml.read text = .error f) (hf : f ≠ .malformed)
      (hreason : Yaml.Unreadable text f) : Escapes hooks text (.yaml f)
  | pattern {pairs rest : List (Value × Value)} {hook : Option Hook} {source : String}
      (hread : Yaml.read text = .ok (.map pairs)) (hhook : takeHook hooks pairs = .ok (hook, rest))
      (hdeclares : NodeDefinition.Declares pairs source)
      (hpattern : Pattern.read source = .error .repeatTooLarge) : Escapes hooks text .overflow

/-- Taking out the hook does not touch the fields. -/
theorem declares_of_takeHook {pairs rest : List (Value × Value)} {hook : Option Hook}
    (h : takeHook hooks pairs = .ok (hook, rest)) (source : String) :
    NodeDefinition.Declares rest source ↔ NodeDefinition.Declares pairs source := by
  have hrest : rest = pairs.filter fun pair => !(Value.text "validation").eqv pair.1 := by
    unfold takeHook at h
    dsimp only at h
    repeat' split at h
    all_goals cases h
    all_goals rfl
  -- no key is both
  have hapart : ∀ k, (Value.text "fields").eqv k = true →
      (Value.text "validation").eqv k = false := by
    intro k hk
    rw [Value.text_eqv_iff.mp hk, Bool.eq_false_iff, Ne, Value.text_eqv_iff]
    intro hsame
    exact absurd (Value.text.inj hsame) (by decide)
  have hfields : Value.field? "fields" rest = Value.field? "fields" pairs := by
    rw [hrest, Value.field?, Value.field?, Value.lookup, Value.lookup, List.find?_filter]
    congr 2
    funext pair
    by_cases hk : (Value.text "fields").eqv pair.1 = true
    · simp [hk, hapart pair.1 hk]
    · simp [hk]
  rw [NodeDefinition.Declares, NodeDefinition.Declares, hfields]

/-- A document that defines no node type is reported as such, or has one of the other faults. -/
theorem definition_or_escapes {number : Option Int}
    (h : NodeDefinition.parse hooks number text = .error fault) :
    (∃ cause, fault = .definition number cause) ∨ Escapes hooks text fault := by
  unfold NodeDefinition.parse at h
  split at h
  · rename_i v hread
    unfold NodeDefinition.ofValue at h
    split at h
    · rename_i pairs
      split at h
      · exact .inl ⟨_, (Except.error.inj h).symm⟩
      · rename_i hook rest hhook
        split at h
        · cases h
        · exact .inl ⟨_, (Except.error.inj h).symm⟩
        · rename_i hdecode
          obtain rfl := Except.error.inj h
          obtain ⟨source, hdeclares, hpattern⟩ := NodeDefinition.decode_eq_overflow_iff.mp hdecode
          exact .inr (.pattern hread hhook ((declares_of_takeHook hhook source).mp hdeclares)
            hpattern)
    · exact .inl ⟨_, (Except.error.inj h).symm⟩
  · exact .inl ⟨_, (Except.error.inj h).symm⟩
  · rename_i f hf hread
    obtain rfl := Except.error.inj h
    have hreason := (Yaml.malformed_or_unreadable hread).resolve_left hf
    exact .inr (.unreadable hread hf hreason)

/-- Such a document always stops with that fault, whatever its number. -/
theorem parse_of_escapes (h : Escapes hooks text fault) (number : Option Int) :
    NodeDefinition.parse hooks number text = .error fault := by
  cases h with
  | @unreadable f hread hf hreason =>
      rw [NodeDefinition.parse, hread]
      cases f with
      | malformed => exact absurd rfl hf
      | _ => rfl
  | @pattern pairs rest hook source hread hhook hdeclares hpattern =>
      have hdecode : NodeDefinition.decode hook (.map rest) = .overflow :=
        NodeDefinition.decode_eq_overflow_iff.mpr
          ⟨source, (declares_of_takeHook hhook source).mpr hdeclares, hpattern⟩
      simp only [NodeDefinition.parse, hread, NodeDefinition.ofValue, hhook, hdecode]

theorem parse_none_of_ok {number : Int} {d : NodeDefinition}
    (h : NodeDefinition.parse hooks (some number) text = .ok d) :
    NodeDefinition.parse hooks none text = .ok d := by
  have hrenumber : NodeDefinition.parse hooks (some number) text =
      (NodeDefinition.parse hooks none text).mapError (Fault.inDocument number) := parse_renumber
  rw [h] at hrenumber
  cases hparse : NodeDefinition.parse hooks none text with
  | error fault =>
      rw [hparse] at hrenumber
      cases hrenumber
  | ok d' =>
      rw [hparse] at hrenumber
      exact hrenumber.symm

/-- A document that is reported as no definition has none of the other faults. -/
theorem not_escapes_of_definition {number : Option Int} {cause : DefinitionFault}
    (h : NodeDefinition.parse hooks number text = .error (.definition number cause)) :
    ¬Escapes hooks text fault := by
  intro hescapes
  rw [parse_of_escapes hescapes number] at h
  rw [Except.error.inj h] at hescapes
  cases hescapes

/-- A document that defines a node type of this name. -/
def Defines (hooks : HookTable) (text name : String) : Prop :=
  ∃ d, NodeDefinition.parse hooks none text = .ok d ∧ d.name = name

namespace Registry

/-! ## Texts -/

/-- Documents that are all defined have the names of their definitions. -/
theorem defines_of_parseAll {number : Nat → Int} {segments : List String}
    {ds : List NodeDefinition}
    (h : parseAll hooks (segments.mapIdx fun i s => (number i, s)) = .ok ds) :
    List.Forall₂ (Defines hooks) (nonBlank segments) (ds.map (·.name)) := by
  rw [List.forall₂_map_right_iff]
  exact (forall₂_of_parseAll h).imp fun _ d ⟨_, hparse⟩ => ⟨d, parse_none_of_ok hparse, rfl⟩

theorem loadPlaced_outcome (hooks : HookTable) (number : Nat → Int) (r : Registry)
    (segments : List String) :
    (∃ names, (loadPlaced hooks number r segments).2 = .ok names ∧
      List.Forall₂ (Defines hooks) (nonBlank segments) names) ∨
    ∃ before segment after fault, segments = before ++ segment :: after ∧
      isBlankText segment = false ∧ (∀ s ∈ nonBlank before, ∃ name, Defines hooks s name) ∧
      NodeDefinition.parse hooks (some (number before.length)) segment = .error fault ∧
      (loadPlaced hooks number r segments).2 = .error fault := by
  have hplaced : (loadPlaced hooks number r segments).2 =
      outcome (defined hooks (segments.mapIdx fun i s => (number i, s))) := by
    rw [loadPlaced, loadSegments_eq]
  rw [hplaced]
  generalize hfound : defined hooks (segments.mapIdx fun i s => (number i, s)) = found
  obtain ⟨ds, _ | fault⟩ := found
  · exact .inl ⟨ds.map (·.name), rfl, defines_of_parseAll (parseAll_of_defined hfound)⟩
  · obtain ⟨before, segment, after, hsegments, hblank, hparse, hbefore⟩ :=
      exists_faulty_document (congrArg Prod.snd hfound)
    refine .inr ⟨before, segment, after, fault, hsegments, hblank, ?_, hparse, rfl⟩
    intro s hs
    obtain ⟨name, _, hdefines⟩ :=
      exists_right_of_forall₂ (defines_of_parseAll (parseAll_of_defined hbefore)) hs
    exact ⟨name, hdefines⟩

/-- A word where an integer is asked for. -/
def wordAsInt : String := "name: !!int foo"

-- a count of repetitions too far
example : (match (empty.load .empty
      "fields: \x7ba: \x7bvalidation: \x7bpattern: \"a\x7b4294967295\x7d\"\x7d\x7d\x7d").2 with
    | .error .overflow => true
    | _ => false) = true := by decide +kernel

end Registry

end NodeGraph
