import NodeGraph.Proofs.Graph.Basic
import NodeGraph.Proofs.Registry.Index
import NodeGraph.Proofs.Wiring

/-!
# Histories of a registry

A registry comes from an empty one by any number of calls that load definitions or give them other
hooks. Any of them may fail, at any document; the next call goes on with the registry that it
leaves. Every call leaves the registry in step, and so does every history. What this means for a
reader of the registry is spelled out in `Registry.Consistent`.
-/

namespace NodeGraph.Registry

/-! ## Calls -/

/-- A call that may change a registry, with the hooks and the files that it finds. -/
inductive Change where
  | load (hooks : HookTable) (text : String)
  /-- A load that something else than a document ends, before the document with this number. -/
  | interruptedLoad (hooks : HookTable) (text : String) (number : Nat)
  | loadFile (hooks : HookTable) (files : Files) (p : Path)
  | loadDirectory (hooks : HookTable) (files : Files) (p : Path)
  /-- A load of one text after the other, as that of the built-in packs. -/
  | loadAll (hooks : HookTable) (texts : List String)
  | attach (name : String) (hook : Option Hook)

/-- The registry that a call leaves, whether it succeeds or fails. -/
def next (r : Registry) : Change → Registry
  | .load hooks text => (r.load hooks text).1
  | .interruptedLoad hooks text number =>
    (r.loadSegments hooks ((numbered (splitDocuments text)).take number)).1.reindex
  | .loadFile hooks files p => (r.loadFile hooks files p).1
  | .loadDirectory hooks files p => (r.loadDirectory hooks files p).1
  | .loadAll hooks texts => (r.loadAll hooks texts).1
  | .attach name hook =>
    match r.attach name hook with
    | .ok (r, _) => r
    | .error _ => r

/-- The registry that a history of calls leaves. -/
def after (r : Registry) (changes : List Change) : Registry := changes.foldl next r

variable {r : Registry}

theorem inStep_next (change : Change) (h : r.InStep) : (r.next change).InStep := by
  cases change with
  | load hooks text => exact inStep_load hooks text h
  | interruptedLoad hooks text number => exact inStep_reindex (keyed_loadSegments hooks _ h.keyed)
  | loadFile hooks files p => exact inStep_loadFile hooks files p h
  | loadDirectory hooks files p => exact inStep_loadFiles hooks files _ h
  | loadAll hooks texts => exact inStep_loadAll hooks texts h
  | attach name hook =>
      rw [next]
      split
      · rename_i hattach
        exact inStep_attach h hattach
      · exact h

theorem inStep_after (changes : List Change) (h : r.InStep) : (r.after changes).InStep := by
  induction changes generalizing r with
  | nil => exact h
  | cons change rest ih => exact ih (inStep_next change h)

/-! ## What a reader finds -/

/-- Names and pins are distinct, and the index is the projection of the definitions. -/
structure Consistent (r : Registry) : Prop where
  /-- Each definition stands under its own name. -/
  named : ∀ name d, r.get? name = some d → d.name = name
  distinct : r.names.Nodup
  /-- The inputs have distinct names, so that each of them is found by its own. -/
  inputs : ∀ d ∈ r.definitions.values, (d.pins.inputs.map (·.name)).Nodup ∧
    ∀ p ∈ d.pins.inputs, d.pins.input? p.name = some p
  outputs : ∀ d ∈ r.definitions.values, (d.pins.outputs.map (·.name)).Nodup ∧
    ∀ p ∈ d.pins.outputs, d.pins.output? p.name = some p
  /-- The categories are those of the definitions, in the order in which they first come. -/
  categories : r.byCategory.map Prod.fst = (r.definitions.values.map (·.category)).eraseDups
  /-- The list of a category has its definitions in the order of the registry, each once. -/
  lists : ∀ category ds, (category, ds) ∈ r.byCategory →
    ds = r.definitions.values.filter (·.category = category) ∧ ds ≠ [] ∧ ds.Nodup
  /-- Each definition is in one list only, the one of its category. -/
  listed : ∀ d ∈ r.definitions.values,
    ∃ ds, (d.category, ds) ∈ r.byCategory ∧ d ∈ ds ∧
      ∀ entry ∈ r.byCategory, d ∈ entry.2 → entry = (d.category, ds)

theorem mem_grouped_iff {ds members : List NodeDefinition} {category : String} :
    (category, members) ∈ grouped ds ↔
      (∃ d ∈ ds, d.category = category) ∧ members = ds.filter (·.category = category) := by
  rw [grouped, List.mem_map]
  constructor
  · rintro ⟨c, hc, heq⟩
    obtain ⟨rfl, rfl⟩ := Prod.mk.inj heq
    exact ⟨List.mem_map.mp (List.mem_eraseDups.mp hc), rfl⟩
  · rintro ⟨hmem, rfl⟩
    exact ⟨category, List.mem_eraseDups.mpr (List.mem_map.mpr hmem), rfl⟩

theorem InStep.nodup_values (h : r.InStep) : r.definitions.values.Nodup := by
  have hnames : (r.definitions.values.map (·.name)).Nodup :=
    h.keyed.map_values ▸ r.definitions.keys_nodup
  exact hnames.of_map

theorem InStep.consistent (h : r.InStep) : r.Consistent where
  named := h.keyed
  distinct := r.definitions.keys_nodup
  inputs := by
    intro d _
    exact ⟨d.pins.nodup_inputs, fun p hp => PinSet.input?_eq_some_iff.mpr ⟨hp, rfl⟩⟩
  outputs := by
    intro d _
    exact ⟨d.pins.nodup_outputs, fun p hp => PinSet.output?_eq_some_iff.mpr ⟨hp, rfl⟩⟩
  categories := by
    rw [h.byCategory, grouped, List.map_map]
    exact List.map_id _
  lists := by
    intro category ds hmem
    rw [h.byCategory, mem_grouped_iff] at hmem
    obtain ⟨⟨d, hd, hcategory⟩, hds⟩ := hmem
    -- a category is there because of a definition, which its list holds
    have hin : d ∈ ds := by
      rw [hds]
      exact List.mem_filter.mpr ⟨hd, decide_eq_true hcategory⟩
    exact ⟨hds, List.ne_nil_of_mem hin, hds ▸ h.nodup_values.filter _⟩
  listed := by
    intro d hd
    rw [h.byCategory]
    refine ⟨_, mem_grouped_iff.mpr ⟨⟨d, hd, rfl⟩, rfl⟩, ?_, ?_⟩
    · exact List.mem_filter.mpr ⟨hd, decide_eq_true rfl⟩
    · rintro ⟨category, members⟩ hentry hin
      obtain ⟨_, rfl⟩ := mem_grouped_iff.mp hentry
      obtain rfl : d.category = category := of_decide_eq_true (List.mem_filter.mp hin).2
      rfl

/-- Whatever is loaded and attached, in whichever order, and however the calls end: the names and
the index are right. -/
theorem consistent_of_history (changes : List Change) : (empty.after changes).Consistent :=
  (inStep_after changes inStep_empty).consistent

end NodeGraph.Registry
