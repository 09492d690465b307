import Mathlib.Data.List.Induction
import NodeGraph.Proofs.Outcome
import NodeGraph.Proofs.Table
import NodeGraph.Registry.Folder

/-!
# The index by category

An index that is made by entering definitions one after the other has their categories in the order
in which they first come, and under each category its definitions in their order. A registry is in
step if its index is the one that its definitions give and each definition stands under its own
name. Adding definitions keeps the names right and lets the index fall behind; every call ends by
making the index anew, so it leaves the registry in step however it ends.
-/

namespace NodeGraph

/-- A table is known from its keys and from what is under each of them. -/
theorem Table.entries_eq_of_keys {α : Type} {t : Table α} {keys : List String} {f : String → α}
    (hkeys : t.keys = keys) (hvalues : ∀ key ∈ keys, t.get? key = some (f key)) :
    t.entries = keys.map fun key => (key, f key) := by
  subst hkeys
  rw [Table.keys, List.map_map]
  conv_lhs => rw [← List.map_id t.entries]
  refine List.map_congr_left ?_
  rintro ⟨key, v⟩ hmem
  have hget := Table.mem_entries_iff.mp hmem
  have hvalue := hvalues key (Table.mem_keys_iff.mpr ⟨v, hget⟩)
  rw [hget] at hvalue
  exact congrArg (Prod.mk key) (Option.some.inj hvalue)

namespace Registry

/-! ## Entering definitions -/

/-- Definitions by category: the categories in the order in which they first come, and the
definitions of each in their order. -/
def grouped (ds : List NodeDefinition) : List (String × List NodeDefinition) :=
  (ds.map (·.category)).eraseDups.map fun category =>
    (category, ds.filter fun d => d.category = category)

theorem eraseDups_concat {xs : List String} {x : String} :
    (xs ++ [x]).eraseDups = if x ∈ xs then xs.eraseDups else xs.eraseDups ++ [x] := by
  rw [List.eraseDups_append]
  by_cases hmem : x ∈ xs
  · simp [List.removeAll, hmem]
  · simp [List.removeAll, hmem, List.eraseDups_cons]

variable {ds : List NodeDefinition} {category : String}

theorem keys_foldl_enter : (ds.foldl enter .empty).keys = (ds.map (·.category)).eraseDups := by
  -- the definition that is entered last is the last one of the list
  induction ds using List.reverseRecOn with
  | nil => rfl
  | append_singleton ds d ih =>
      rw [List.foldl_append, List.map_append, List.map_singleton, eraseDups_concat, ← ih]
      show (enter _ d).keys = _
      rw [enter, Table.keys_insert]
      refine if_congr ?_ rfl rfl
      rw [ih, List.mem_eraseDups]

/-- A category that is not there yet counts as an empty list. -/
theorem getD_get?_foldl_enter :
    ((ds.foldl enter .empty).get? category).getD [] = ds.filter (·.category = category) := by
  induction ds using List.reverseRecOn with
  | nil => rfl
  | append_singleton ds d ih =>
      rw [List.foldl_append, List.filter_append, ← ih]
      show ((enter _ d).get? category).getD [] = _
      rw [enter, Table.get?_insert]
      by_cases hcategory : category = d.category
      · subst hcategory
        simp
      · simp [hcategory, Ne.symm hcategory]

theorem entries_foldl_enter : (ds.foldl enter .empty).entries = grouped ds := by
  refine Table.entries_eq_of_keys keys_foldl_enter ?_
  intro category hmem
  rw [← keys_foldl_enter] at hmem
  obtain ⟨members, hget⟩ := Table.mem_keys_iff.mp hmem
  rw [← getD_get?_foldl_enter, hget]
  rfl

/-! ## Registries in step -/

/-- Each definition stands under its own name, and the index is that of the definitions. -/
structure InStep (r : Registry) : Prop where
  keyed : r.definitions.Keyed (·.name)
  byCategory : r.byCategory = grouped r.definitions.values

variable {r r' : Registry}

theorem inStep_empty : empty.InStep := ⟨.empty, rfl⟩

theorem inStep_reindex (h : r.definitions.Keyed (·.name)) : r.reindex.InStep :=
  ⟨h, entries_foldl_enter⟩

/-- Making the index anew changes nothing in a registry in step. -/
theorem InStep.reindex_eq (h : r.InStep) : r.reindex = r := by
  have hindex : r.definitions.values.foldl enter .empty = r.index :=
    Table.eq_of_entries (entries_foldl_enter.trans h.byCategory.symm)
  rw [reindex, hindex]

/-! ## Loading -/

variable (hooks : HookTable)

/-- Until the index is made anew only the names are right. -/
theorem keyed_loadSegments (segments : List (Int × String)) (h : r.definitions.Keyed (·.name)) :
    (r.loadSegments hooks segments).1.definitions.Keyed (·.name) := by
  induction segments generalizing r with
  | nil => exact h
  | cons segment rest ih =>
      obtain ⟨number, text⟩ := segment
      rw [loadSegments]
      split
      · exact ih h
      · split
        -- a faulty document ends the load with what is there
        · exact h
        · rename_i d _
          exact ih (h.insert d)

theorem inStep_load (text : String) (h : r.InStep) : (r.load hooks text).1.InStep :=
  inStep_reindex (keyed_loadSegments hooks _ h.keyed)

/-! What every load of one text preserves is preserved by the loads of several texts and files. -/

section

variable {P : Registry → Prop} (hload : ∀ r text, P r → P (r.load hooks text).1)
include hload

theorem holds_loadAll (texts : List String) (h : P r) : P (r.loadAll hooks texts).1 := by
  induction texts generalizing r with
  | nil => exact h
  | cons text rest ih =>
      have hfirst := hload r text h
      rw [loadAll]
      split
      · rename_i hload
        rwa [hload] at hfirst
      · rename_i hload
        rw [hload] at hfirst
        exact ih hfirst

theorem holds_loadFile (files : Files) (p : Path) (h : P r) : P (r.loadFile hooks files p).1 := by
  rw [loadFile]
  split
  · exact hload r _ h
  · exact h

theorem holds_loadFiles (files : Files) (paths : List Path) (h : P r) :
    P (r.loadFiles hooks files paths).1 := by
  induction paths generalizing r with
  | nil => exact h
  | cons p rest ih =>
      have hfirst := holds_loadFile hooks hload files p h
      rw [loadFiles]
      split
      · rename_i hload
        rwa [hload] at hfirst
      · rename_i hload
        rw [hload] at hfirst
        exact ih hfirst

end

theorem inStep_loadAll (texts : List String) (h : r.InStep) :
    (r.loadAll hooks texts).1.InStep :=
  holds_loadAll hooks (fun _ => inStep_load hooks) texts h

theorem inStep_loadFile (files : Files) (p : Path) (h : r.InStep) :
    (r.loadFile hooks files p).1.InStep :=
  holds_loadFile hooks (fun _ => inStep_load hooks) files p h

theorem inStep_loadFiles (files : Files) (paths : List Path) (h : r.InStep) :
    (r.loadFiles hooks files paths).1.InStep :=
  holds_loadFiles hooks (fun _ => inStep_load hooks) files paths h

/-! ## Hooks -/

/-- Another hook leaves the name and the category of a definition as they are. -/
theorem inStep_attach {name : String} {hook : Option Hook} {d : NodeDefinition} (h : r.InStep)
    (hattach : r.attach name hook = .ok (r', d)) : r'.InStep := by
  simp only [attach, bind_eq_ok_iff, pure_eq_ok_iff] at hattach
  obtain ⟨old, hold, heq⟩ := hattach
  obtain ⟨rfl, rfl⟩ := Prod.mk.inj heq
  rw [require] at hold
  split at hold
  · rename_i found hfound
    obtain rfl := Except.ok.inj hold
    obtain rfl : found.name = name := h.keyed name found hfound
    exact inStep_reindex (h.keyed.insert { found with hook := hook })
  · cases hold

end Registry

end NodeGraph
