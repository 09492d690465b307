import Mathlib.Data.List.Forall2
import Mathlib.Data.List.Perm.Subperm
import NodeGraph.Definition
import NodeGraph.Proofs.Table

/-!
# Equal definitions

Definitions are compared by what they hold, with the hooks left aside. Two that are equal have the
same name, pins and template, and equal fields under the same names. They may still list their
fields in different orders, give a bound of zero with different signs, and have defaults that are
only equal, as `1` and `true` are.
-/

namespace NodeGraph

/-! ## Tables with related values -/

namespace Table

variable {α : Type} {R : α → α → Prop} {t t' : Table α}

theorem entries_eq_filterMap (t : Table α) :
    t.entries = t.keys.filterMap fun k => (t.get? k).map fun v => (k, v) := by
  rw [keys, List.filterMap_map]
  symm
  refine (List.filterMap_congr ?_).trans (List.filterMap_some (l := t.entries))
  rintro ⟨k, v⟩ hmem
  simp only [Function.comp_apply, mem_entries_iff.mp hmem, Option.map_some]

theorem values_eq_filterMap (t : Table α) : t.values = t.keys.filterMap t.get? := by
  rw [values, entries_eq_filterMap, List.map_filterMap]
  refine List.filterMap_congr fun k _ => ?_
  cases t.get? k <;> rfl

theorem forall₂_values (hkeys : t'.keys = t.keys)
    (h : ∀ k, Option.Rel R (t.get? k) (t'.get? k)) : List.Forall₂ R t.values t'.values := by
  rw [values_eq_filterMap, values_eq_filterMap, hkeys]
  refine List.rel_filterMap (R := Eq) ?_ (List.forall₂_refl _)
  rintro k _ rfl
  exact h k

/-- The entries of the second table can be brought into the order of the first one. -/
theorem exists_reordered (hkeys : t.keys.Perm t'.keys)
    (h : ∀ k, Option.Rel R (t.get? k) (t'.get? k)) :
    ∃ entries, List.Forall₂ (fun p q => p.1 = q.1 ∧ R p.2 q.2) t.entries entries ∧
      entries.Perm t'.entries ∧ (t.keys = t'.keys → entries = t'.entries) := by
  refine ⟨t.keys.filterMap fun k => (t'.get? k).map fun v => (k, v), ?_, ?_, ?_⟩
  · rw [entries_eq_filterMap]
    refine List.rel_filterMap (R := Eq) ?_ (List.forall₂_refl _)
    rintro k _ rfl
    have hk := h k
    show Option.Rel _ ((t.get? k).map _) ((t'.get? k).map _)
    generalize t.get? k = x, t'.get? k = y at hk ⊢
    cases hk with
    | some h => exact .some ⟨rfl, h⟩
    | none => exact .none
  · rw [entries_eq_filterMap t']
    exact hkeys.filterMap _
  · intro heq
    rw [entries_eq_filterMap t', heq]

end Table

/-! ## What equality says -/

theorem sameOption_iff {α : Type} {same : α → α → Bool} {x y : Option α} :
    sameOption same x y = true ↔ Option.Rel (fun a b => same a b = true) x y := by
  cases x <;> cases y <;> simp [sameOption]

namespace Table

variable {α : Type} {same : α → α → Bool} {t t' : Table α}

theorem keys_perm_of_eqv (h : t.eqv same t' = true) : t.keys.Perm t'.keys := by
  simp only [eqv, Bool.and_eq_true, beq_iff_eq, List.all_eq_true] at h
  have hsubset : t.keys ⊆ t'.keys := by
    intro k hk
    obtain ⟨⟨k, v⟩, hentry, rfl⟩ := List.mem_map.mp hk
    obtain ⟨w, hw, _⟩ := (Option.any_eq_true _ _).mp (h.2 _ hentry)
    exact mem_keys_iff.mpr ⟨w, hw⟩
  refine (List.subperm_of_subset t.keys_nodup hsubset).perm_of_length_le ?_
  simp only [keys, List.length_map]
  exact Nat.le_of_eq h.1.symm

theorem rel_get?_of_eqv (h : t.eqv same t' = true) (k : String) :
    Option.Rel (fun a b => same a b = true) (t.get? k) (t'.get? k) := by
  have hkeys := keys_perm_of_eqv h
  simp only [eqv, Bool.and_eq_true, List.all_eq_true] at h
  cases hget : t.get? k with
  | some v =>
      obtain ⟨w, hw, hsame⟩ := (Option.any_eq_true _ _).mp (h.2 (k, v) (mem_entries_iff.mpr hget))
      rw [hw]
      exact .some hsame
  | none =>
      have hnone : t'.get? k = none := by
        rw [Option.eq_none_iff_forall_ne_some]
        intro w hw
        obtain ⟨v, hv⟩ := mem_keys_iff.mp (hkeys.mem_iff.mpr (mem_keys_iff.mpr ⟨w, hw⟩))
        rw [hget] at hv
        cases hv
      rw [hnone]
      exact .none

end Table

/-- Two definitions without hooks are equal as far as their nodes are concerned. -/
structure NodeDefinition.Matches (a b : NodeDefinition) : Prop where
  name : b.name = a.name
  pins : b.pins = a.pins
  template : b.template = a.template
  hook : a.hook = none
  hook' : b.hook = none
  keys : a.fields.keys.Perm b.fields.keys
  fields : ∀ name, Option.Rel (fun s t => FieldSpec.eqv s t = true) (a.fields.get? name)
    (b.fields.get? name)

theorem NodeDefinition.matches_of_eqv {a b : NodeDefinition} (h : a.eqv b = true)
    (ha : a.hook = none) (hb : b.hook = none) : a.Matches b := by
  simp only [eqv, Bool.and_eq_true, beq_iff_eq] at h
  obtain ⟨⟨⟨⟨⟨⟨hname, -⟩, -⟩, hfields⟩, hinputs⟩, houtputs⟩, htemplate⟩ := h
  refine ⟨hname.symm, ?_, htemplate.symm, ha, hb, Table.keys_perm_of_eqv hfields,
    Table.rel_get?_of_eqv hfields⟩
  obtain ⟨_, _, _, _, ⟨_, _, _, _⟩, _, _⟩ := a
  obtain ⟨_, _, _, _, ⟨_, _, _, _⟩, _, _⟩ := b
  cases hinputs
  cases houtputs
  rfl

end NodeGraph
