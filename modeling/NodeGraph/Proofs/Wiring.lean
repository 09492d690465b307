import NodeGraph.Validation

/-!
# Edges and pins

Where an edge ends, which edge is the first to end in an input, and what it means for an edge to fit
the pins of the definitions at its two ends. Pins are found by name; on each side of a definition a
name belongs to one pin.
-/

namespace NodeGraph

theorem Value.text_eqv_iff {s : String} {v : Value} : (Value.text s).eqv v = true ↔ v = .text s := by
  cases v with
  | text t =>
      rw [Value.eqv, beq_iff_eq, Value.text.injEq]
      exact eq_comm
  | _ => simp [Value.eqv]

theorem Value.eqv_text_iff {s : String} {v : Value} : v.eqv (.text s) = true ↔ v = .text s := by
  cases v with
  | text t => rw [Value.eqv, beq_iff_eq, Value.text.injEq]
  | _ => simp [Value.eqv, Value.eqv.sameNumber, Value.numeric?]

instance (v : Value) (s : String) : Decidable (v = .text s) :=
  decidable_of_iff _ Value.eqv_text_iff

/-! ## Pins by name -/

theorem find?_name_eq_some_iff {pins : List Pin} {name : String} {pin : Pin}
    (hdistinct : (pins.map (·.name)).Nodup) :
    pins.find? (·.name = name) = some pin ↔ pin ∈ pins ∧ pin.name = name := by
  constructor
  · intro h
    exact ⟨List.mem_of_find?_eq_some h, by simpa using List.find?_some h⟩
  · rintro ⟨hmem, rfl⟩
    induction pins with
    | nil => cases hmem
    | cons first rest ih =>
        rw [List.map_cons, List.nodup_cons] at hdistinct
        rcases List.mem_cons.mp hmem with rfl | hmem
        · simp
        · have hne : first.name ≠ pin.name := fun heq =>
            hdistinct.1 (heq ▸ List.mem_map_of_mem hmem)
          simpa [hne] using ih hdistinct.2 hmem

theorem PinSet.input?_eq_some_iff {pins : PinSet} {name : String} {pin : Pin} :
    pins.input? name = some pin ↔ pin ∈ pins.inputs ∧ pin.name = name :=
  find?_name_eq_some_iff pins.nodup_inputs

theorem PinSet.output?_eq_some_iff {pins : PinSet} {name : String} {pin : Pin} :
    pins.output? name = some pin ↔ pin ∈ pins.outputs ∧ pin.name = name :=
  find?_name_eq_some_iff pins.nodup_outputs

namespace Edge

theorem outputPin?_eq_some_iff {e : Edge} {d : NodeDefinition} {pin : Pin} :
    e.outputPin? d = some pin ↔ pin ∈ d.pins.outputs ∧ e.sourceOutput = .text pin.name := by
  unfold outputPin?
  split
  · rename_i name heq
    rw [PinSet.output?_eq_some_iff, heq, Value.text.injEq, eq_comm]
  · rename_i hnot
    constructor
    · intro h
      cases h
    · rintro ⟨_, heq⟩
      exact absurd heq (hnot _)

theorem inputPin?_eq_some_iff {e : Edge} {d : NodeDefinition} {pin : Pin} :
    e.inputPin? d = some pin ↔ pin ∈ d.pins.inputs ∧ e.targetInput = .text pin.name := by
  unfold inputPin?
  split
  · rename_i name heq
    rw [PinSet.input?_eq_some_iff, heq, Value.text.injEq, eq_comm]
  · rename_i hnot
    constructor
    · intro h
      cases h
    · rintro ⟨_, heq⟩
      exact absurd heq (hnot _)

/-! ## Ends of edges -/

/-- The edge ends in the input `pin` of the node `id`. -/
def EndsIn (e : Edge) (id pin : String) : Prop :=
  e.target = id ∧ e.targetInput = .text pin

/-- The edge leads from a declared output of one definition to a declared input of the other, and
both have the same type. -/
def Fits (e : Edge) (source target : NodeDefinition) : Prop :=
  ∃ output ∈ source.pins.outputs, ∃ input ∈ target.pins.inputs,
    e.sourceOutput = .text output.name ∧ e.targetInput = .text input.name ∧
      output.type = input.type

theorem endsIn_iff {e : Edge} {id pin : String} :
    (decide (e.target = id) && (Value.text pin).eqv e.targetInput) = true ↔ e.EndsIn id pin := by
  simp [EndsIn, Value.text_eqv_iff]

theorem fits_iff {e : Edge} {source target : NodeDefinition} :
    e.Fits source target ↔ ∃ output input, e.outputPin? source = some output ∧
      e.inputPin? target = some input ∧ output.type = input.type := by
  simp only [Fits, outputPin?_eq_some_iff, inputPin?_eq_some_iff]
  constructor
  · rintro ⟨output, houtput, input, hinput, hsource, htarget, htype⟩
    exact ⟨output, input, ⟨houtput, hsource⟩, ⟨hinput, htarget⟩, htype⟩
  · rintro ⟨output, input, ⟨houtput, hsource⟩, ⟨hinput, htarget⟩, htype⟩
    exact ⟨output, houtput, input, hinput, hsource, htarget, htype⟩

end Edge

/-- Of the edges that end in an input, the one that comes first in the graph. -/
def Graph.FirstInto (g : Graph) (id pin : String) (e : Edge) : Prop :=
  e.EndsIn id pin ∧ ∃ before after, g.edges = before ++ e :: after ∧
    ∀ other ∈ before, ¬ other.EndsIn id pin

theorem Graph.isConnected_iff {g : Graph} {id pin : String} :
    g.isConnected id pin = true ↔ ∃ e ∈ g.edges, e.EndsIn id pin := by
  simp only [isConnected, List.any_eq_true, Edge.endsIn_iff]

theorem Graph.FirstInto.mem {g : Graph} {id pin : String} {e : Edge} (h : g.FirstInto id pin e) :
    e ∈ g.edges := by
  obtain ⟨_, before, after, heq, _⟩ := h
  rw [heq]
  simp

end NodeGraph
