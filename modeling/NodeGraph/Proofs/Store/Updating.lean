import NodeGraph.Proofs.Mapping
import NodeGraph.Proofs.Store.Fields
import NodeGraph.Proofs.Store.Saving

/-!
# Updates one after the other

An update of a node that has just the declared fields is refused as a whole if it names another
field, and else writes copies of all its values in place. Fields that all have text keys are those
of a table, so two updates are two lists of pairs that are put into one table: they come to the same
as one update by both, and in either order to the same if they have no key in common.
-/

namespace NodeGraph

/-- The fields `f` overridden by `g`: values of `g` stand in place of those under the same key, and
new keys come last. -/
def Fields.overriddenBy (f g : Fields) : Fields :=
  g.foldl (fun entries (k, v) => Value.insert k v entries) f

/-- All keys are names of fields that the definition declares. -/
def NodeDefinition.Covers (d : NodeDefinition) (fields : Fields) : Prop :=
  fields.map Prod.fst ⊆ d.fields.keys.map .text

theorem NodeDefinition.Covers.copiedEntries {d : NodeDefinition} {fields : Fields}
    (h : d.Covers fields) : d.Covers (Value.copiedEntries fields) := by
  rwa [Covers, Value.map_fst_copiedEntries]

/-- To copy fields that were overridden is to override copies by copies. -/
theorem Fields.copiedEntries_overriddenBy (f g : Fields) :
    Value.copiedEntries (f.overriddenBy g) =
      Fields.overriddenBy (Value.copiedEntries f) (Value.copiedEntries g) := by
  induction g generalizing f with
  | nil => rfl
  | cons entry g ih =>
      obtain ⟨k, v⟩ := entry
      show Value.copiedEntries (Fields.overriddenBy (Value.insert k v f) g) =
        Fields.overriddenBy (Value.insert k v.copied (Value.copiedEntries f)) (Value.copiedEntries g)
      rw [ih, Value.copiedEntries_insert]

/-! ## Fields as tables -/

namespace Table

variable {α : Type} {t u : Table α} {pairs more : List (String × α)} {k : String}

/-- The keys are distinct, so it makes no difference from which end one looks. -/
theorem lookup_reverse_entries (u : Table α) : u.entries.reverse.lookup k = u.get? k := by
  have hnodup : (u.entries.reverse.map Prod.fst).Nodup := by
    rw [List.map_reverse]
    exact List.nodup_reverse.mpr u.nodup_keys
  refine Option.ext fun v => ?_
  show (mk u.entries.reverse hnodup).get? k = some v ↔ _
  rw [← mem_entries_iff, ← mem_entries_iff, List.mem_reverse]

theorem lookup_reverse_of_notMem (h : k ∉ pairs.map Prod.fst) : pairs.reverse.lookup k = none := by
  refine List.lookup_eq_none_iff.mpr fun pair hpair => bne_iff_ne.mpr ?_
  rintro rfl
  exact h (List.mem_map_of_mem (List.mem_reverse.mp hpair))

/-- To put in the pairs of a table and then more is to put in those of the table with more. -/
theorem insertAll_insertAll (hu : u.keys ⊆ t.keys) (hmore : more.map Prod.fst ⊆ t.keys) :
    (t.insertAll u.entries).insertAll more = t.insertAll (u.insertAll more).entries := by
  have hkeys : (t.insertAll u.entries).keys = t.keys := keys_insertAll hu
  have hboth : (u.insertAll more).keys ⊆ t.keys := fun k hk =>
    (mem_keys_insertAll.mp hk).elim (@hu k) (@hmore k)
  refine eq_of_keys ?_ fun k => ?_
  · rw [keys_insertAll (hkeys.symm ▸ hmore), hkeys, keys_insertAll hboth]
  · rw [get?_insertAll, get?_insertAll, get?_insertAll, lookup_reverse_entries,
      lookup_reverse_entries, get?_insertAll, Option.or_assoc]

/-- Pairs without a common key can be put in in either order. -/
theorem insertAll_comm (hpairs : pairs.map Prod.fst ⊆ t.keys) (hmore : more.map Prod.fst ⊆ t.keys)
    (h : (pairs.map Prod.fst).Disjoint (more.map Prod.fst)) :
    (t.insertAll pairs).insertAll more = (t.insertAll more).insertAll pairs := by
  have hkeys := keys_insertAll hpairs
  have hkeys' := keys_insertAll hmore
  refine eq_of_keys ?_ fun k => ?_
  · rw [keys_insertAll (t := t.insertAll pairs) (hkeys.symm ▸ hmore), hkeys,
      keys_insertAll (t := t.insertAll more) (hkeys'.symm ▸ hpairs), hkeys']
  · rw [get?_insertAll, get?_insertAll, get?_insertAll, get?_insertAll]
    by_cases hk : k ∈ pairs.map Prod.fst
    · rw [lookup_reverse_of_notMem fun hk' => h hk hk', Option.none_or, Option.none_or]
    · rw [lookup_reverse_of_notMem hk, Option.none_or, Option.none_or]

end Table

namespace Value

theorem map_fst_textEntries (pairs : List (String × Value)) :
    (textEntries pairs).map Prod.fst = (pairs.map Prod.fst).map .text := by
  rw [textEntries, List.map_map, List.map_map]
  rfl

theorem mem_textEntries_iff {pairs : List (String × Value)} {k v : Value} :
    (k, v) ∈ textEntries pairs ↔ ∃ name, k = .text name ∧ (name, v) ∈ pairs := by
  constructor
  · intro h
    obtain ⟨⟨name, w⟩, hmem, heq⟩ := List.mem_map.mp h
    cases heq
    exact ⟨name, rfl, hmem⟩
  · rintro ⟨name, rfl, hmem⟩
    exact List.mem_map_of_mem hmem

end Value

open Value

namespace Fields

variable {names : List String} {e f g : Fields}

theorem exists_textEntries (h : f.map Prod.fst ⊆ names.map .text) :
    ∃ pairs, f = textEntries pairs ∧ pairs.map Prod.fst ⊆ names := by
  induction f with
  | nil => exact ⟨[], rfl, List.nil_subset _⟩
  | cons entry f ih =>
      obtain ⟨k, v⟩ := entry
      rw [List.map_cons, List.cons_subset] at h
      obtain ⟨name, hname, rfl⟩ := List.mem_map.mp h.1
      obtain ⟨pairs, rfl, hpairs⟩ := ih h.2
      exact ⟨(name, v) :: pairs, rfl, List.cons_subset.mpr ⟨hname, hpairs⟩⟩

/-- Fields with distinct names are those of a table. -/
theorem exists_table (h : f.map Prod.fst ⊆ names.map .text) (hdistinct : (f.map Prod.fst).Nodup) :
    ∃ t : Table Value, f = textEntries t.entries ∧ t.keys ⊆ names := by
  obtain ⟨pairs, rfl, hpairs⟩ := exists_textEntries h
  rw [map_fst_textEntries] at hdistinct
  exact ⟨⟨pairs, hdistinct.of_map⟩, rfl, hpairs⟩

/-- Fields with just these names are those of a table with these keys. -/
theorem exists_table_of_perm (hnames : names.Nodup)
    (h : (e.map Prod.fst).Perm (names.map .text)) :
    ∃ t : Table Value, e = textEntries t.entries ∧ names ⊆ t.keys := by
  have hdistinct : (names.map Value.text).Nodup := hnames.map fun _ _ => Value.text.inj
  obtain ⟨t, rfl, -⟩ := exists_table h.subset (h.nodup_iff.mpr hdistinct)
  refine ⟨t, rfl, fun name hname => ?_⟩
  have hmem := h.symm.subset (List.mem_map_of_mem hname)
  rw [map_fst_textEntries] at hmem
  obtain ⟨_, hmem, heq⟩ := List.mem_map.mp hmem
  exact Value.text.inj heq ▸ hmem

/-- Values are put under texts as into a table. -/
theorem overriddenBy_textEntries (t : Table Value) (pairs : List (String × Value)) :
    overriddenBy (textEntries t.entries) (textEntries pairs) =
      textEntries (t.insertAll pairs).entries := by
  induction pairs generalizing t with
  | nil => rfl
  | cons pair pairs ih =>
      show overriddenBy (Value.insert (.text pair.1) pair.2 (textEntries t.entries))
        (textEntries pairs) = _
      rw [insert_textEntries]
      exact ih (t.insert pair.1 pair.2)

section

variable (hnames : names.Nodup) (he : (e.map Prod.fst).Perm (names.map .text))
  (hf : f.map Prod.fst ⊆ names.map .text)

include hnames he hf

theorem overriddenBy_assoc (hg : g.map Prod.fst ⊆ names.map .text)
    (hdistinct : (f.map Prod.fst).Nodup) :
    (e.overriddenBy f).overriddenBy g = e.overriddenBy (f.overriddenBy g) := by
  obtain ⟨t, rfl, ht⟩ := exists_table_of_perm hnames he
  obtain ⟨u, rfl, hu⟩ := exists_table hf hdistinct
  obtain ⟨pairs, rfl, hpairs⟩ := exists_textEntries hg
  simp only [overriddenBy_textEntries]
  rw [Table.insertAll_insertAll (List.Subset.trans hu ht) (List.Subset.trans hpairs ht)]

theorem overriddenBy_comm (hg : g.map Prod.fst ⊆ names.map .text)
    (hdisjoint : (f.map Prod.fst).Disjoint (g.map Prod.fst)) :
    (e.overriddenBy f).overriddenBy g = (e.overriddenBy g).overriddenBy f := by
  obtain ⟨t, rfl, ht⟩ := exists_table_of_perm hnames he
  obtain ⟨pairs, rfl, hpairs⟩ := exists_textEntries hf
  obtain ⟨more, rfl, hmore⟩ := exists_textEntries hg
  rw [map_fst_textEntries, map_fst_textEntries] at hdisjoint
  simp only [overriddenBy_textEntries]
  rw [Table.insertAll_comm (List.Subset.trans hpairs ht) (List.Subset.trans hmore ht)]
  exact fun k hk hk' => hdisjoint (List.mem_map_of_mem hk) (List.mem_map_of_mem hk')

theorem map_fst_overriddenBy : (e.overriddenBy f).map Prod.fst = e.map Prod.fst := by
  obtain ⟨t, rfl, ht⟩ := exists_table_of_perm hnames he
  obtain ⟨pairs, rfl, hpairs⟩ := exists_textEntries hf
  rw [overriddenBy_textEntries, map_fst_textEntries, map_fst_textEntries]
  exact congrArg _ (Table.keys_insertAll (List.Subset.trans hpairs ht))

/-- Each value is that of the update, if the update has one under the key. -/
theorem mem_overriddenBy_iff (hdistinct : (f.map Prod.fst).Nodup) {k v : Value} :
    (k, v) ∈ e.overriddenBy f ↔ (k, v) ∈ f ∨ k ∉ f.map Prod.fst ∧ (k, v) ∈ e := by
  obtain ⟨t, rfl, ht⟩ := exists_table_of_perm hnames he
  obtain ⟨u, rfl, hu⟩ := exists_table hf hdistinct
  have hkeys : ∀ name, .text name ∈ (textEntries u.entries).map Prod.fst ↔ name ∈ u.keys := by
    intro name
    rw [map_fst_textEntries, List.mem_map_of_injective fun _ _ => Value.text.inj]
    rfl
  have hget : ∀ name, (name, v) ∈ (t.insertAll u.entries).entries ↔
      (name, v) ∈ u.entries ∨ name ∉ u.keys ∧ (name, v) ∈ t.entries := by
    intro name
    rw [Table.mem_entries_iff, Table.get?_insertAll, Table.lookup_reverse_entries,
      Option.or_eq_some_iff, ← Table.mem_entries_iff, ← Table.mem_entries_iff,
      Option.eq_none_iff_forall_ne_some, Table.mem_keys_iff, not_exists]
  rw [overriddenBy_textEntries, mem_textEntries_iff, mem_textEntries_iff, mem_textEntries_iff]
  constructor
  · rintro ⟨name, rfl, hmem⟩
    rcases (hget name).mp hmem with hu | ⟨hnot, ht⟩
    · exact .inl ⟨name, rfl, hu⟩
    · exact .inr ⟨mt (hkeys name).mp hnot, name, rfl, ht⟩
  · rintro (⟨name, rfl, hu⟩ | ⟨hnot, name, rfl, ht⟩)
    · exact ⟨name, rfl, (hget name).mpr (.inl hu)⟩
    · exact ⟨name, rfl, (hget name).mpr (.inr ⟨mt (hkeys name).mpr hnot, ht⟩)⟩

end

theorem subset_overriddenBy (hf : f.map Prod.fst ⊆ names.map .text)
    (hdistinct : (f.map Prod.fst).Nodup) (hg : g.map Prod.fst ⊆ names.map .text) :
    (f.overriddenBy g).map Prod.fst ⊆ names.map .text := by
  obtain ⟨u, rfl, hu⟩ := exists_table hf hdistinct
  obtain ⟨pairs, rfl, hpairs⟩ := exists_textEntries hg
  rw [overriddenBy_textEntries, map_fst_textEntries]
  refine List.map_subset _ fun k hk => ?_
  exact (Table.mem_keys_insertAll.mp hk).elim (@hu k) (@hpairs k)

end Fields

open Edit Store

/-! ## What a call leaves -/

section

variable {α : Type} {w w' : Workspace} {c : Call} {e : Edit α} {f : α → Option String}

theorem Workspace.next_of_ok {a : α}
    (hc : c.operation.run c.registry c.settings = e >>= fun a => pure (f a))
    (h : e.run w = .ok a w') : w.next c = w' := by
  have hrun : c.run w = .ok (f a) w' := by
    rw [Call.run, hc]
    exact run_bind_pure_eq_ok_iff.mpr ⟨a, h, rfl⟩
  rw [Workspace.next, hrun]

theorem Workspace.next_of_error {fault : Fault}
    (hc : c.operation.run c.registry c.settings = e >>= fun a => pure (f a))
    (h : e.run w = .error fault w') : w.next c = w' := by
  have hrun : c.run w = .error fault w' := by
    rw [Call.run, hc]
    exact run_bind_eq_error_iff.mpr (.inl h)
  rw [Workspace.next, hrun]

end

/-! ## One update -/

theorem NodeDefinition.not_covers_iff {d : NodeDefinition} {fields : Fields} :
    ¬ d.Covers fields ↔ ∃ k ∈ fields.map Prod.fst, ∀ name ∈ d.fields.keys, k ≠ .text name := by
  simp only [Covers, List.subset_def, List.mem_map (b := _) (f := Value.text), not_forall,
    exists_prop, not_exists, not_and, ne_comm]

namespace Store

variable {r : Registry} {settings : Settings} {w : Workspace} {key : String} {n : Node}
  {d : NodeDefinition} {id : Value} {fields f g : Fields}

theorem checkFields_eq_ok_iff : checkFields d id fields = .ok () ↔ d.Covers fields := by
  constructor
  · intro h k hk
    obtain ⟨entry, hentry, rfl⟩ := List.mem_map.mp hk
    obtain ⟨name, hname, heq⟩ := declared_of_checkFields h entry hentry
    exact List.mem_map.mpr ⟨name, hname, heq.symm⟩
  · intro h
    have hnone : undeclared d fields = [] := by
      refine List.filter_eq_nil_iff.mpr ?_
      rintro ⟨k, v⟩ hentry
      obtain ⟨name, hname, rfl⟩ := List.mem_map.mp (h (List.mem_map_of_mem hentry))
      simp [Table.contains_iff.mpr hname]
    rw [checkFields, hnone]

section

variable (hget : w.store.nodes.get? key = some n) (hd : r.get? n.type = some d)

include hget hd

theorem run_updateNode :
    (updateNode r (.text key) f).run w =
      match checkFields d (.text key) f with
      | .ok _ => .ok (some (updated n f).copied) ⟨w.store.putNode (updated n f), w.ids⟩
      | .error fault => .error fault w := by
  have hfound : w.store.node? (.text key) = .ok (some n) :=
    node?_eq_some_iff.mpr ⟨key, rfl, hget⟩
  rw [updateNode, run_store_bind, hfound]
  simp only [orFail, pure_bind, hd]
  cases checkFields d (.text key) f <;> rfl

theorem run_updateNode_of_covers (h : d.Covers f) :
    (updateNode r (.text key) f).run w =
      .ok (some (updated n f).copied) ⟨w.store.putNode (updated n f), w.ids⟩ := by
  rw [run_updateNode hget hd, checkFields_eq_ok_iff.mpr h]

/-- An update with another field is refused as a whole. -/
theorem exists_run_updateNode_error (h : ¬ d.Covers f) :
    ∃ fault, (updateNode r (.text key) f).run w = .error fault w := by
  rw [run_updateNode hget hd]
  cases hcheck : checkFields d (.text key) f with
  | ok => exact absurd (checkFields_eq_ok_iff.mp hcheck) h
  | error fault => exact ⟨fault, rfl⟩

theorem covers_of_run_updateNode {found : Option Node} {w' : Workspace}
    (h : (updateNode r (.text key) f).run w = .ok found w') : d.Covers f := by
  by_contra hnot
  obtain ⟨fault, hrun⟩ := exists_run_updateNode_error hget hd hnot
  cases hrun.symm.trans h

theorem next_updateNode (h : d.Covers f) :
    w.next ⟨r, settings, .updateNode (.text key) f⟩ =
      ⟨w.store.putNode (updated n f), w.ids⟩ :=
  Workspace.next_of_ok rfl (run_updateNode_of_covers hget hd h)

theorem next_updateNode_of_not (h : ¬ d.Covers f) :
    w.next ⟨r, settings, .updateNode (.text key) f⟩ = w := by
  obtain ⟨fault, hrun⟩ := exists_run_updateNode_error hget hd h
  exact Workspace.next_of_error rfl hrun

end

/-! ## Two updates -/

theorem putNode_updated_updated (s : Store) (n : Node) (f g : Fields) :
    (s.putNode (updated n f)).putNode (updated (updated n f) g) =
      s.putNode (updated (updated n f) g) :=
  congrArg (fun nodes => { s with nodes := nodes }) (Table.insert_insert s.nodes n.id _ _)

/-- The node is found as the update leaves it. -/
theorem get?_updated (w : Workspace) (n : Node) (fields : Fields) :
    (Workspace.mk (w.store.putNode (updated n fields)) w.ids).store.nodes.get? n.id =
      some (updated n fields) := by
  show (w.store.nodes.insert n.id (updated n fields)).get? n.id = _
  rw [Table.get?_insert, if_pos rfl]

variable (hget : w.store.nodes.get? n.id = some n) (hd : r.get? n.type = some d)

include hget hd

theorem run_updateNode_twice {found found' : Option Node} {w₁ w₂ : Workspace}
    (hexact : (n.fields.map Prod.fst).Perm (d.fields.keys.map .text))
    (hdistinct : (f.map Prod.fst).Nodup)
    (hf : (updateNode r (.text n.id) f).run w = .ok found w₁)
    (hg : (updateNode r (.text n.id) g).run w₁ = .ok found' w₂) :
    (updateNode r (.text n.id) (f.overriddenBy g)).run w = .ok found' w₂ := by
  have hnames := d.fields.keys_nodup
  have hcovers := covers_of_run_updateNode hget hd hf
  cases (run_updateNode_of_covers hget hd hcovers).symm.trans hf
  have hget₁ := get?_updated w n f
  have hcovers' := covers_of_run_updateNode hget₁ hd hg
  cases (run_updateNode_of_covers hget₁ hd hcovers').symm.trans hg
  have hupdated : updated (updated n f) g = updated n (f.overriddenBy g) := by
    have hassoc := Fields.overriddenBy_assoc hnames hexact hcovers.copiedEntries
      hcovers'.copiedEntries (by simpa using hdistinct)
    rw [← Fields.copiedEntries_overriddenBy] at hassoc
    exact congrArg (fun fields => { n with fields := fields }) hassoc
  rw [run_updateNode_of_covers hget hd
    (Fields.subset_overriddenBy hcovers hdistinct hcovers'), ← hupdated,
    ← putNode_updated_updated]

/-- In which order two updates are made makes no difference, also where one is refused. -/
theorem next_updateNode_comm
    (hexact : (n.fields.map Prod.fst).Perm (d.fields.keys.map .text))
    (hdisjoint : (f.map Prod.fst).Disjoint (g.map Prod.fst)) :
    (w.next ⟨r, settings, .updateNode (.text n.id) f⟩).next
        ⟨r, settings, .updateNode (.text n.id) g⟩ =
      (w.next ⟨r, settings, .updateNode (.text n.id) g⟩).next
        ⟨r, settings, .updateNode (.text n.id) f⟩ := by
  have hafter := get?_updated w n
  by_cases hf : d.Covers f <;> by_cases hg : d.Covers g
  · have hupdated : updated (updated n f) g = updated (updated n g) f :=
      congrArg (fun fields => { n with fields := fields })
        (Fields.overriddenBy_comm d.fields.keys_nodup hexact hf.copiedEntries hg.copiedEntries
          (by simpa using hdisjoint))
    rw [next_updateNode hget hd hf, next_updateNode hget hd hg, next_updateNode (hafter f) hd hg,
      next_updateNode (hafter g) hd hf, putNode_updated_updated, putNode_updated_updated, hupdated]
  · rw [next_updateNode_of_not hget hd hg, next_updateNode hget hd hf,
      next_updateNode_of_not (hafter f) hd hg]
  · rw [next_updateNode_of_not hget hd hf, next_updateNode hget hd hg,
      next_updateNode_of_not (hafter g) hd hf]
  · rw [next_updateNode_of_not hget hd hf, next_updateNode_of_not hget hd hg,
      next_updateNode_of_not hget hd hf]

end Store

/-- In every store that a run leads to, take a node that has just the fields that its type declares.
Two updates of it that go through come to the same as one by the second put over the first, and the
order of two updates makes no difference if they have no key in common, even if one is refused. An
update is refused exactly if it has a key that is not declared, and then changes nothing. One that
goes through writes copies of all its values in place, returns a copy of the node, and changes
nothing but this node's fields. -/
theorem Workspace.updateNode_after (ids : Ids) (calls : List Call) (r : Registry)
    (settings : Settings) {n : Node} {d : NodeDefinition}
    (hn : n ∈ ((start ids).after calls).store.graph.nodes) (hd : r.get? n.type = some d)
    (hexact : (n.fields.map Prod.fst).Perm (d.fields.keys.map .text)) :
    let w := (start ids).after calls
    let update := fun f => updateNode r (.text n.id) f
    let call := fun f => Call.mk r settings (.updateNode (.text n.id) f)
    (∀ (f g : Fields) found found' w₁ w₂, (f.map Prod.fst).Nodup →
      (update f).run w = .ok found w₁ → (update g).run w₁ = .ok found' w₂ →
        (update (f.overriddenBy g)).run w = .ok found' w₂) ∧
    (∀ f g : Fields, (f.map Prod.fst).Disjoint (g.map Prod.fst) →
      w.after [call f, call g] = w.after [call g, call f]) ∧
    ∀ f : Fields,
      ((∃ fault w', (update f).run w = .error fault w') ↔
        ∃ k ∈ f.map Prod.fst, ∀ name ∈ d.fields.keys, k ≠ .text name) ∧
      (∀ fault w', (update f).run w = .error fault w' → w' = w) ∧
      ∀ found w', (update f).run w = .ok found w' → ∃ n', found = some n'.copied ∧
        (n' = { n with fields := n'.fields } ∧ n'.fields.map Prod.fst = n.fields.map Prod.fst ∧
          ((f.map Prod.fst).Nodup → ∀ k v, (k, v) ∈ n'.fields ↔
            (k, v) ∈ Value.copiedEntries f ∨ k ∉ f.map Prod.fst ∧ (k, v) ∈ n.fields)) ∧
        (∃ pre post, w.store.graph.nodes = pre ++ n :: post ∧
          w'.store.graph.nodes = pre ++ n' :: post) ∧
        w'.store = { w.store with nodes := w'.store.nodes } ∧ w'.ids = w.ids := by
  intro w update call
  have hs : w.store.Consistent := consistent_after .empty calls
  have hget : w.store.nodes.get? n.id = some n := by
    obtain ⟨key, hget⟩ := Table.mem_values_iff.mp hn
    obtain rfl : n.id = key := hs.nodes_keyed key n hget
    exact hget
  refine ⟨fun f g _ _ _ _ hdistinct hf hg => run_updateNode_twice hget hd hexact hdistinct hf hg,
    fun f g hdisjoint => next_updateNode_comm hget hd hexact hdisjoint, fun f => ?_⟩
  have hrefused : ∀ fault w', (update f).run w = .error fault w' → ¬ d.Covers f ∧ w' = w := by
    intro fault w' hrun
    by_cases hcovers : d.Covers f
    · cases (run_updateNode_of_covers hget hd hcovers).symm.trans hrun
    · obtain ⟨_, herror⟩ := exists_run_updateNode_error hget hd hcovers
      cases herror.symm.trans hrun
      exact ⟨hcovers, rfl⟩
  refine ⟨?_, fun fault w' hrun => (hrefused fault w' hrun).2, fun found w' hrun => ?_⟩
  · rw [← NodeDefinition.not_covers_iff]
    constructor
    · rintro ⟨fault, w', hrun⟩
      exact (hrefused fault w' hrun).1
    · intro hnot
      obtain ⟨fault, hrun⟩ := exists_run_updateNode_error hget hd hnot
      exact ⟨fault, w, hrun⟩
  · have hcovers := covers_of_run_updateNode hget hd hrun
    cases (run_updateNode_of_covers hget hd hcovers).symm.trans hrun
    have hnames := d.fields.keys_nodup
    have hgiven := hcovers.copiedEntries
    refine ⟨updated n f, rfl, ⟨rfl, Fields.map_fst_overriddenBy hnames hexact hgiven,
      fun hdistinct k v => ?_⟩, Table.exists_values_insert hget (updated n f), rfl, rfl⟩
    have hmem := Fields.mem_overriddenBy_iff hnames hexact hgiven (by simpa using hdistinct)
      (k := k) (v := v)
    rwa [Value.map_fst_copiedEntries] at hmem

/-- Two updates of a pair that hold no key in common, and one of both fields. -/
theorem givenPair_updated :
    let w := (Workspace.start ⟨[], 1⟩).after [takeOver ⟨[givenPair], []⟩]
    let r := Registry.empty.after pairHistory
    ∃ d, givenPair ∈ w.store.graph.nodes ∧ r.get? givenPair.type = some d ∧
      (givenPair.fields.map Prod.fst).Perm (d.fields.keys.map .text) ∧
      (updateNode r (.text "given") [(.text "left", .int 3), (.text "right", .int 4)]).run w =
        .ok (some { givenPair with fields := [(.text "right", .int 4), (.text "left", .int 3)] })
          ⟨w.store.putNode
            { givenPair with fields := [(.text "right", .int 4), (.text "left", .int 3)] }, w.ids⟩ ∧
      ∃ fault, (updateNode r (.text "given") [(.text "left", .null), (.text "middle", .null)]).run w =
        .error fault w := by
  intro w r
  obtain ⟨d, hd, hfields⟩ := Option.map_eq_some_iff.mp pairHistory_read.1
  have hmem : givenPair ∈ w.store.graph.nodes := List.mem_cons_self
  have hexact : (givenPair.fields.map Prod.fst).Perm (d.fields.keys.map .text) := by
    rw [hfields]
    exact .refl _
  obtain ⟨htwice, -, hone⟩ :=
    Workspace.updateNode_after ⟨[], 1⟩ [takeOver ⟨[givenPair], []⟩] r .standard hmem hd hexact
  refine ⟨d, hmem, hd, hexact, ?_, ?_⟩
  · have hget : w.store.nodes.get? givenPair.id = some givenPair := rfl
    have hleft := run_updateNode_of_covers (f := [(.text "left", .int 3)]) hget hd
      (by simp [NodeDefinition.Covers, hfields])
    have hright := run_updateNode_of_covers (f := [(.text "right", .int 4)])
      (get?_updated w givenPair [(.text "left", .int 3)]) hd
      (by simp [NodeDefinition.Covers, hfields])
    have hboth := htwice _ _ _ _ _ _ (by simp) hleft hright
    have hfields : updated (updated givenPair [(.text "left", .int 3)]) [(.text "right", .int 4)] =
        { givenPair with fields := [(.text "right", .int 4), (.text "left", .int 3)] } := by
      simp [updated, givenPair, Value.insert, Value.eqv, Value.copied, Value.copiedEntries]
    have hmerged : Fields.overriddenBy [(.text "left", .int 3)] [(.text "right", .int 4)] =
        [(.text "left", .int 3), (.text "right", .int 4)] := by
      simp [Fields.overriddenBy, Value.insert, Value.eqv]
    rw [putNode_updated_updated, hfields, hmerged] at hboth
    exact hboth
  · obtain ⟨hrefused, hkept, -⟩ := hone [(.text "left", .null), (.text "middle", .null)]
    obtain ⟨fault, w', hrun⟩ := hrefused.mpr ⟨.text "middle", by simp, by simp [hfields]⟩
    obtain rfl := hkept fault w' hrun
    exact ⟨fault, hrun⟩

end NodeGraph
