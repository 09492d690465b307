import NodeGraph.Proofs.Generation.Interchange
import NodeGraph.Proofs.Store.Reopening
import NodeGraph.Proofs.Store.Updating

/-!
# Stores under equal definitions

A node is added to two stores, each of which has one of two equal definitions, and then both are
updated alike. The stores stay alike: an update goes through in one exactly if it does in the other,
and a field that it writes holds the same value in both from then on. Only a field that is not
written keeps the default of its definition, and this may be an equal one in the other.
-/

namespace NodeGraph

/-! ## Values under updates -/

namespace Fields

variable {name : String} {e e' f : Fields}

/-- An update keeps equal values equal. -/
theorem field?_overriddenBy_congr
    (h : (Value.field? name e).getD .null = (Value.field? name e').getD .null) :
    (Value.field? name (e.overriddenBy f)).getD .null =
      (Value.field? name (e'.overriddenBy f)).getD .null := by
  induction f generalizing e e' with
  | nil => exact h
  | cons entry f ih =>
      obtain ⟨k, v⟩ := entry
      have hinsert : (Value.field? name (Value.insert k v e)).getD .null =
          (Value.field? name (Value.insert k v e')).getD .null := by
        rw [Value.field?_insert, Value.field?_insert]
        split
        · rfl
        · exact h
      exact ih hinsert

/-- An update leaves the same value in the fields that it writes, whatever was there. -/
theorem field?_overriddenBy_of_mem (h : .text name ∈ f.map Prod.fst) :
    (Value.field? name (e.overriddenBy f)).getD .null =
      (Value.field? name (e'.overriddenBy f)).getD .null := by
  induction f generalizing e e' with
  | nil => cases h
  | cons entry f ih =>
      obtain ⟨k, v⟩ := entry
      show (Value.field? name (overriddenBy (Value.insert k v e) f)).getD .null =
        (Value.field? name (overriddenBy (Value.insert k v e') f)).getD .null
      rcases List.mem_cons.mp h with rfl | hrest
      · refine field?_overriddenBy_congr ?_
        have hself : (Value.text name).eqv (.text name) = true := Value.text_eqv_iff.mpr rfl
        rw [Value.field?_insert, Value.field?_insert, if_pos hself, if_pos hself]
      · exact ih hrest

end Fields

theorem NodeDefinition.field?_initialFields (d : NodeDefinition) (name : String) :
    Value.field? name d.initialFields = (d.fields.get? name).map (·.initialValue) := by
  show Value.field? name (d.fields.entries.map _) = (d.fields.entries.lookup name).map _
  induction d.fields.entries with
  | nil => rfl
  | cons entry rest ih =>
      obtain ⟨key, spec⟩ := entry
      rw [List.map_cons, Value.field?_cons, ih]
      by_cases hkey : name = key
      · subst hkey
        rw [if_pos (Value.text_eqv_iff.mpr rfl), List.lookup_cons, beq_self_eq_true]
        rfl
      · have hother : ¬ (Value.text name).eqv (.text key) = true :=
          fun h => hkey (Value.text.inj (Value.text_eqv_iff.mp h)).symm
        rw [if_neg hother, List.lookup_cons, beq_false_of_ne hkey]

/-! ## One update in two stores -/

/-- A node of the type can be updated with the fields. -/
def Registry.Accepts (r : Registry) (type : String) (fields : Fields) : Prop :=
  ∀ d, r.get? type = some d → d.Covers fields

theorem Registry.Match.accepts_iff {r r' : Registry} (h : r.Match r') {type : String}
    {fields : Fields} : r'.Accepts type fields ↔ r.Accepts type fields := by
  have htype := h type
  unfold Accepts
  generalize r.get? type = x, r'.get? type = y at htype ⊢
  cases htype with
  | none => simp
  | some hmatches =>
      have hkeys := hmatches.keys.map Value.text
      simp only [Option.some.injEq, forall_eq', NodeDefinition.Covers]
      exact ⟨fun h => List.Subset.trans h hkeys.symm.subset,
        fun h => List.Subset.trans h hkeys.subset⟩

namespace Store

open Edit

variable {r r' : Registry} {settings : Settings} {s s' : Store} {w w' : Workspace} {id : Value}
  {key name : String} {fields : Fields}

/-- An update that its node takes writes the fields, also if the type of the node is unknown. -/
theorem next_updateNode_of_accepts {n : Node} (hget : w.store.nodes.get? key = some n)
    (h : r.Accepts n.type fields) :
    w.next ⟨r, settings, .updateNode (.text key) fields⟩ =
      ⟨w.store.putNode (updated n fields), w.ids⟩ := by
  cases hd : r.get? n.type with
  | some d => exact next_updateNode hget hd (h d hd)
  | none =>
      have hrun : (updateNode r (.text key) fields).run w =
          .ok (some (updated n fields).copied) ⟨w.store.putNode (updated n fields), w.ids⟩ := by
        rw [updateNode, run_store_bind, node?_eq_some_iff.mpr ⟨key, rfl, hget⟩]
        simp only [orFail, pure_bind, hd]
        rfl
      exact Workspace.next_of_ok rfl hrun

/-- An update that no node takes changes nothing. -/
theorem next_updateNode_of_refuses
    (h : ∀ key n, id = .text key → w.store.nodes.get? key = some n → ¬ r.Accepts n.type fields) :
    w.next ⟨r, settings, .updateNode id fields⟩ = w := by
  cases hfound : w.store.node? id with
  | error fault =>
      have hrun : (updateNode r id fields).run w = .error fault w := by
        rw [updateNode, run_store_bind, hfound]
        rfl
      exact Workspace.next_of_error rfl hrun
  | ok found =>
      cases found with
      | none =>
          have hrun : (updateNode r id fields).run w = .ok none w := by
            rw [updateNode, run_store_bind, hfound]
            rfl
          exact Workspace.next_of_ok rfl hrun
      | some n =>
          obtain ⟨key, rfl, hget⟩ := node?_eq_some_iff.mp hfound
          obtain ⟨d, hd, hnot⟩ : ∃ d, r.get? n.type = some d ∧ ¬ d.Covers fields := by
            simpa [Registry.Accepts] using h key n rfl hget
          exact next_updateNode_of_not hget hd hnot

/-! ## Two stores -/

/-- The stores have nodes with the same ids and types, and the same edges. -/
structure Alike (s s' : Store) : Prop where
  keys : s'.nodes.keys = s.nodes.keys
  edges : s'.edges = s.edges
  nodes : ∀ key, Option.Rel (fun n m => n.id = key ∧ m.id = key ∧ m.type = n.type)
    (s.nodes.get? key) (s'.nodes.get? key)

/-- The type of a node of the store. -/
def typeAt (s : Store) (key : String) : Option String := (s.nodes.get? key).map (·.type)

/-- The value that a node of the store holds. -/
def valueAt (s : Store) (key name : String) : Option Value :=
  (s.nodes.get? key).map (·.field name)

theorem typeAt_putNode (s : Store) (n : Node) (key : String) :
    (s.putNode n).typeAt key = if key = n.id then some n.type else s.typeAt key := by
  show ((s.nodes.insert n.id n).get? key).map (·.type) = _
  rw [Table.get?_insert]
  split <;> rfl

theorem valueAt_putNode (s : Store) (n : Node) (key name : String) :
    (s.putNode n).valueAt key name =
      if key = n.id then some (n.field name) else s.valueAt key name := by
  show ((s.nodes.insert n.id n).get? key).map (·.field name) = _
  rw [Table.get?_insert]
  split <;> rfl

namespace Alike

variable {n m : Node}

theorem refl (h : s.Consistent) : s.Alike s where
  keys := rfl
  edges := rfl
  nodes := by
    intro key
    have hkeyed := h.nodes_keyed key
    generalize s.nodes.get? key = x at hkeyed ⊢
    cases x with
    | none => exact .none
    | some n => exact .some ⟨hkeyed n rfl, hkeyed n rfl, rfl⟩

theorem putNode (h : s.Alike s') (hid : m.id = n.id) (htype : m.type = n.type) :
    (s.putNode n).Alike (s'.putNode m) where
  keys := by
    show (s'.nodes.insert m.id m).keys = (s.nodes.insert n.id n).keys
    rw [Table.keys_insert, Table.keys_insert, h.keys, hid]
  edges := h.edges
  nodes := by
    intro key
    show Option.Rel _ ((s.nodes.insert n.id n).get? key) ((s'.nodes.insert m.id m).get? key)
    rw [Table.get?_insert, Table.get?_insert, hid]
    split
    · rename_i hkey
      exact .some ⟨hkey.symm, hid.trans hkey.symm, htype⟩
    · exact h.nodes key

theorem exists_right (h : s.Alike s') (hn : s.nodes.get? key = some n) :
    ∃ m, s'.nodes.get? key = some m ∧ n.id = key ∧ m.id = key ∧ m.type = n.type := by
  have hkey := h.nodes key
  generalize s'.nodes.get? key = y at hkey ⊢
  rw [hn] at hkey
  cases hkey with
  | some hsame => exact ⟨_, rfl, hsame⟩

theorem exists_left (h : s.Alike s') (hm : s'.nodes.get? key = some m) :
    ∃ n, s.nodes.get? key = some n ∧ m.type = n.type := by
  have hkey := h.nodes key
  generalize s.nodes.get? key = x at hkey ⊢
  rw [hm] at hkey
  cases hkey with
  | some hsame => exact ⟨_, rfl, hsame.2.2⟩

/-- Stores alike whose nodes hold the same values have the same graph. -/
theorem graph (h : s.Alike s') (hvalues : ∀ key name, s'.valueAt key name = s.valueAt key name) :
    s.graph.Alike s'.graph where
  nodes := by
    refine Table.forall₂_values h.keys fun key => ?_
    have hkey := h.nodes key
    have hvalues := hvalues key
    unfold valueAt at hvalues
    generalize s.nodes.get? key = x, s'.nodes.get? key = y at hkey hvalues ⊢
    cases hkey with
    | none => exact .none
    | some hsame =>
        obtain ⟨hid, hid', htype⟩ := hsame
        exact .some ⟨hid'.trans hid.symm, htype, fun name => Option.some.inj (hvalues name)⟩
  edges := congrArg Table.values h.edges

end Alike

/-- What an update does to stores alike: it is refused in both, or it goes through in both. -/
inductive UpdatedAlike (r : Registry) (id : Value) (fields : Fields) (w w' v v' : Workspace) :
    Prop where
  | refused (hv : v = w) (hv' : v' = w')
      (hrefuses : ∀ key type, id = .text key → w.store.typeAt key = some type →
        ¬ r.Accepts type fields)
  | written (n m : Node) (hid : id = .text n.id) (hget : w.store.nodes.get? n.id = some n)
      (hget' : w'.store.nodes.get? n.id = some m) (hm : m.id = n.id) (htype : m.type = n.type)
      (hv : v = ⟨w.store.putNode (updated n fields), w.ids⟩)
      (hv' : v' = ⟨w'.store.putNode (updated m fields), w'.ids⟩)

theorem Alike.update (h : w.store.Alike w'.store) (hr : r.Match r') (settings : Settings)
    (id : Value) (fields : Fields) :
    UpdatedAlike r id fields w w' (w.next ⟨r, settings, .updateNode id fields⟩)
      (w'.next ⟨r', settings, .updateNode id fields⟩) := by
  by_cases htaken : ∃ key n, id = .text key ∧ w.store.nodes.get? key = some n ∧
      r.Accepts n.type fields
  · obtain ⟨key, n, rfl, hn, haccepts⟩ := htaken
    obtain ⟨m, hm, rfl, hid, htype⟩ := h.exists_right hn
    have haccepts' : r'.Accepts m.type fields := by rwa [hr.accepts_iff, htype]
    exact .written n m rfl hn hm hid htype (next_updateNode_of_accepts hn haccepts)
      (next_updateNode_of_accepts hm haccepts')
  · have hrefuses : ∀ key n, id = .text key → w.store.nodes.get? key = some n →
        ¬ r.Accepts n.type fields := by
      intro key n hid hn haccepts
      exact htaken ⟨key, n, hid, hn, haccepts⟩
    refine .refused (next_updateNode_of_refuses hrefuses) (next_updateNode_of_refuses ?_) ?_
    · intro key m hid hm haccepts'
      obtain ⟨n, hn, htype⟩ := h.exists_left hm
      rw [hr.accepts_iff, htype] at haccepts'
      exact hrefuses key n hid hn haccepts'
    · rintro key _ hid htype
      obtain ⟨n, hn, rfl⟩ := Option.map_eq_some_iff.mp htype
      exact hrefuses key n hid hn

namespace UpdatedAlike

variable {v v' : Workspace}

theorem alike (hu : UpdatedAlike r id fields w w' v v') (h : w.store.Alike w'.store) :
    v.store.Alike v'.store := by
  cases hu with
  | refused hv hv' => rwa [hv, hv']
  | written n m _ _ _ hm htype hv hv' =>
      rw [hv, hv']
      exact h.putNode (n := updated n fields) (m := updated m fields) hm htype

theorem typeAt_eq (hu : UpdatedAlike r id fields w w' v v') (key : String) :
    v.store.typeAt key = w.store.typeAt key := by
  cases hu with
  | refused hv => rw [hv]
  | written n m _ hget _ _ _ hv =>
      rw [hv, typeAt_putNode]
      split
      · rename_i hkey
        rw [hkey, typeAt]
        exact (congrArg (Option.map (·.type)) hget).symm
      · rfl

/-- A value is the same in both stores if it was so before, or if the update writes it. -/
theorem valueAt_eq (hu : UpdatedAlike r id fields w w' v v')
    (h : w'.store.valueAt key name = w.store.valueAt key name ∨
      ∃ type, id = .text key ∧ w.store.typeAt key = some type ∧ r.Accepts type fields ∧
        .text name ∈ fields.map Prod.fst) :
    v'.store.valueAt key name = v.store.valueAt key name := by
  cases hu with
  | refused hv hv' hrefuses =>
      rcases h with h | ⟨type, hid, htype, haccepts, _⟩
      · rwa [hv, hv']
      · exact absurd haccepts (hrefuses key type hid htype)
  | written n m hid hget hget' hm htype hv hv' =>
      rw [hv, hv', valueAt_putNode, valueAt_putNode]
      show (if key = m.id then _ else _) = if key = n.id then _ else _
      rw [hm]
      split
      · rename_i hkey
        refine congrArg some ?_
        rcases h with h | ⟨_, _, _, _, hname⟩
        · rw [hkey, valueAt, valueAt, hget, hget'] at h
          exact Fields.field?_overriddenBy_congr (Option.some.inj h)
        · exact Fields.field?_overriddenBy_of_mem (by rwa [Value.map_fst_copiedEntries])
      · rename_i hkey
        rcases h with h | ⟨_, heq, _⟩
        · exact h
        · exact absurd (Value.text.inj (heq.symm.trans hid)) hkey

end UpdatedAlike

/-! ## A run of updates -/

/-- Updates one after the other, with the same definitions. -/
def updateCalls (r : Registry) (settings : Settings) (updates : List (Value × Fields)) : List Call :=
  updates.map fun (id, fields) => ⟨r, settings, .updateNode id fields⟩

theorem Alike.updates (h : w.store.Alike w'.store) (hr : r.Match r') (settings : Settings)
    (updates : List (Value × Fields)) :
    (w.after (updateCalls r settings updates)).store.Alike
      (w'.after (updateCalls r' settings updates)).store := by
  induction updates generalizing w w' with
  | nil => exact h
  | cons u updates ih => exact ih ((h.update hr settings u.1 u.2).alike h)

/-- After a run of updates a value is the same in both stores if it was so before, or if one of the
updates writes it. -/
theorem valueAt_after (h : w.store.Alike w'.store) (hr : r.Match r') (settings : Settings)
    (updates : List (Value × Fields))
    (hvalue : w'.store.valueAt key name = w.store.valueAt key name ∨
      ∃ type, w.store.typeAt key = some type ∧
        ∃ u ∈ updates, u.1 = .text key ∧ r.Accepts type u.2 ∧ .text name ∈ u.2.map Prod.fst) :
    (w'.after (updateCalls r' settings updates)).store.valueAt key name =
      (w.after (updateCalls r settings updates)).store.valueAt key name := by
  induction updates generalizing w w' with
  | nil =>
      rcases hvalue with hvalue | ⟨_, _, _, hmem, _⟩
      · exact hvalue
      · cases hmem
  | cons u updates ih =>
      have hstep := h.update hr settings u.1 u.2
      refine ih (hstep.alike h) ?_
      rcases hvalue with hvalue | ⟨type, htype, u', hmem, hid, haccepts, hname⟩
      · exact .inl (hstep.valueAt_eq (.inl hvalue))
      · rcases List.mem_cons.mp hmem with rfl | hmem
        · exact .inl (hstep.valueAt_eq (.inr ⟨type, hid, htype, haccepts, hname⟩))
        · exact .inr ⟨type, (hstep.typeAt_eq key).trans htype, u', hmem, hid, haccepts, hname⟩

/-! ## A new node -/

section

variable {type : String} {position : Value} {a b : NodeDefinition}

theorem next_addNode_of_ok {p : Position} (ha : r.get? type = some a)
    (hp : positionOf position = .ok p) :
    w.next ⟨r, settings, .addNode (.text type) position⟩ =
      ⟨w.store.putNode (created a (w.fresh "node").1 p), (w.fresh "node").2⟩ := by
  have hrun : (addNode r (.text type) position).run w =
      .ok (created a (w.fresh "node").1 p).copied
        ⟨w.store.putNode (created a (w.fresh "node").1 p), (w.fresh "node").2⟩ := by
    unfold addNode
    simp only [keyOf, orFail, pure_bind, Registry.require, ha, run_newId_bind, hp, run_store_bind,
      run_setStore_bind]
    rfl
  exact Workspace.next_of_ok rfl hrun

/-- The new id is drawn before the position is looked at. -/
theorem next_addNode_of_error {fault : Fault} (ha : r.get? type = some a)
    (hp : positionOf position = .error fault) :
    w.next ⟨r, settings, .addNode (.text type) position⟩ = ⟨w.store, (w.fresh "node").2⟩ := by
  have hrun : (addNode r (.text type) position).run w =
      .error fault ⟨w.store, (w.fresh "node").2⟩ := by
    unfold addNode
    simp only [keyOf, orFail, pure_bind, Registry.require, ha, run_newId_bind, hp]
    rfl
  exact Workspace.next_of_error rfl hrun

variable (ha : r.get? type = some a) (hb : r'.get? type = some b)

include ha hb

theorem Alike.added (hs : w.store.Consistent) (hab : a.Matches b) (settings : Settings)
    (position : Value) :
    (w.next ⟨r, settings, .addNode (.text type) position⟩).store.Alike
      (w.next ⟨r', settings, .addNode (.text type) position⟩).store := by
  cases hp : positionOf position with
  | ok p =>
      rw [next_addNode_of_ok ha hp, next_addNode_of_ok hb hp]
      exact (Alike.refl hs).putNode rfl hab.name
  | error fault =>
      rw [next_addNode_of_error ha hp, next_addNode_of_error hb hp]
      exact .refl hs

/-- Right after a node was added, all other values are the same in both stores, and so are those of
the new node but for defaults that differ. -/
theorem valueAt_added (w : Workspace) (settings : Settings) (position : Value)
    (key name : String) :
    (w.next ⟨r', settings, .addNode (.text type) position⟩).store.valueAt key name =
        (w.next ⟨r, settings, .addNode (.text type) position⟩).store.valueAt key name ∨
      key = (w.fresh "node").1 ∧
        (w.next ⟨r, settings, .addNode (.text type) position⟩).store.typeAt key = some a.name ∧
        (a.fields.get? name).map (·.initialValue) ≠ (b.fields.get? name).map (·.initialValue) := by
  cases hp : positionOf position with
  | ok p =>
      rw [next_addNode_of_ok ha hp, next_addNode_of_ok hb hp, valueAt_putNode, valueAt_putNode,
        typeAt_putNode]
      by_cases hkey : key = (w.fresh "node").1
      · by_cases hdefault : (a.fields.get? name).map (·.initialValue) =
          (b.fields.get? name).map (·.initialValue)
        · left
          refine (if_pos hkey).trans (Eq.trans (congrArg some ?_) (if_pos hkey).symm)
          show (Value.field? name (Value.copiedEntries b.initialFields)).getD .null =
            (Value.field? name (Value.copiedEntries a.initialFields)).getD .null
          rw [Value.field?_copiedEntries, Value.field?_copiedEntries,
            NodeDefinition.field?_initialFields, NodeDefinition.field?_initialFields, hdefault]
        · exact .inr ⟨hkey, if_pos hkey, hdefault⟩
      · exact .inl ((if_neg hkey).trans (if_neg hkey).symm)
  | error fault =>
      rw [next_addNode_of_error ha hp, next_addNode_of_error hb hp]
      exact .inl rfl

end

end Store

/-! ## Equal definitions -/

/-- The registry has this definition and no other. -/
def Registry.HoldsOnly (r : Registry) (d : NodeDefinition) : Prop :=
  r.definitions.entries = [(d.name, d)]

theorem Registry.HoldsOnly.get? {r : Registry} {d : NodeDefinition} (h : r.HoldsOnly d)
    (type : String) : r.get? type = if type = d.name then some d else none := by
  show r.definitions.entries.lookup type = _
  rw [h, List.lookup_cons, List.lookup_nil]
  split
  · rename_i heq
    rw [if_pos (beq_iff_eq.mp heq)]
  · rename_i hne
    rw [if_neg (beq_eq_false_iff_ne.mp hne)]

section

variable {r r' : Registry} {a b : NodeDefinition} (hab : a.Matches b) (hr : r.HoldsOnly a)
  (hr' : r'.HoldsOnly b)

include hab hr hr'

theorem Registry.match_of_holdsOnly : r.Match r' := by
  intro type
  rw [hr.get?, hr'.get?, hab.name]
  split
  · exact .some hab
  · exact .none

theorem Registry.sameOrder_of_holdsOnly (hkeys : a.fields.keys = b.fields.keys) :
    r.SameOrder r' := by
  intro type d d' hd hd'
  rw [hr.get?] at hd
  rw [hr'.get?, hab.name] at hd'
  split at hd
  · rename_i htype
    rw [if_pos htype] at hd'
    cases hd
    cases hd'
    exact hkeys
  · cases hd

end

theorem Registry.holdsOnly_add (d : NodeDefinition) :
    (Registry.empty.add d).reindex.HoldsOnly d := rfl

/-- A node is added, and then updates are made. -/
def placing (r : Registry) (settings : Settings) (type : String) (position : Value)
    (updates : List (Value × Fields)) : List Call :=
  ⟨r, settings, .addNode (.text type) position⟩ :: Store.updateCalls r settings updates

/-- Each field has the same initial value in both definitions, or one of the updates is accepted by
the node with the id and writes it. -/
def DefaultsWritten (a b : NodeDefinition) (id : String) (updates : List (Value × Fields)) : Prop :=
  ∀ name, (a.fields.get? name).map (·.initialValue) = (b.fields.get? name).map (·.initialValue) ∨
    ∃ u ∈ updates, u.1 = .text id ∧ a.Covers u.2 ∧ .text name ∈ u.2.map Prod.fst

namespace Workspace

open Store Edit

/-- The two stores have the same graph if the updates write all defaults that differ. -/
theorem graph_placing {w : Workspace} {r r' : Registry} {a b : NodeDefinition}
    (hs : w.store.Consistent) (hab : a.Matches b) (ha : r.get? a.name = some a)
    (hb : r'.get? b.name = some b) (hr : r.Match r') (settings : Settings) (position : Value)
    (updates : List (Value × Fields))
    (hdefaults : DefaultsWritten a b (w.fresh "node").1 updates) :
    (w.after (placing r settings a.name position updates)).store.graph.Alike
      (w.after (placing r' settings b.name position updates)).store.graph := by
  rw [hab.name] at hb ⊢
  have hadded := Alike.added ha hb hs hab settings position
  have haccepts : ∀ fields, a.Covers fields → r.Accepts a.name fields := by
    intro fields hcovers d hd
    cases ha.symm.trans hd
    exact hcovers
  refine (hadded.updates hr settings updates).graph fun key name => ?_
  refine valueAt_after hadded hr settings updates ?_
  rcases valueAt_added ha hb w settings position key name with
    hsame | ⟨rfl, htype, hdiffers⟩
  · exact .inl hsame
  · obtain ⟨u, hmem, hid, hcovers, hname⟩ := (hdefaults name).resolve_left hdiffers
    exact .inr ⟨a.name, htype, u, hmem, hid, haccepts u.2 hcovers, hname⟩

/-- Equal definitions without hooks are interchangeable but for two things that their equality does
not see: the order of their fields, and what their defaults are apart from being equal. A node of
the type is added to a store that a run leads to, once with a registry that has only the one and once
with one that has only the other, and then the same updates are made. They write every default that
is not the same in both definitions. If the fields are listed in the same order, validation and
generation come to the same in both stores. In any order both validations are answered or neither
is, and they find the same messages about the same nodes, up to the order of the messages about one
node. If there are none, the same is generated, and else reports on such messages. -/
theorem placing_after (ids : Ids) (before : List Call) (settings : Settings) (position : Value)
    (updates : List (Value × Fields)) {r r' : Registry} {a b : NodeDefinition}
    (h : a.eqv b = true) (ha : a.hook = none) (hb : b.hook = none) (hr : r.HoldsOnly a)
    (hr' : r'.HoldsOnly b)
    (hdefaults : DefaultsWritten a b (((start ids).after before).fresh "node").1 updates) :
    let v := ((start ids).after before).after (placing r settings a.name position updates)
    let v' := ((start ids).after before).after (placing r' settings b.name position updates)
    let validated := (Store.validate r).outcome v
    let validated' := (Store.validate r').outcome v'
    let generated := fun s => (Store.generate r s).outcome v
    let generated' := fun s => (Store.generate r' s).outcome v'
    (a.fields.keys = b.fields.keys → validated = validated' ∧ ∀ s, generated s = generated' s) ∧
    Corresponds (List.Forall₂ NodeErrors.SameMessages) validated validated' ∧
    (validated = .ok [] → validated' = .ok [] ∧ ∀ s, generated s = generated' s) ∧
    ∀ s, Corresponds (fun x y => x = y ∨ SameReports s x y) (generated s) (generated' s) := by
  intro v v' validated validated' generated generated'
  have hab := NodeDefinition.matches_of_eqv h ha hb
  have hmatch := Registry.match_of_holdsOnly hab hr hr'
  have hgeta : r.get? a.name = some a := (hr.get? a.name).trans (if_pos rfl)
  have hgetb : r'.get? b.name = some b := (hr'.get? b.name).trans (if_pos rfl)
  have hs : ((start ids).after before).store.Consistent := consistent_after .empty before
  have hgraph : v.store.graph.Alike v'.store.graph :=
    graph_placing hs hab hgeta hgetb hmatch settings position updates hdefaults
  simp only [validated, validated', generated, generated', outcome_validate, outcome_generate]
  refine ⟨fun hkeys => ?_, validate_corresponds hgraph hmatch, fun hvalid => ?_,
    fun s => generate_corresponds hgraph hmatch⟩
  · have horder := Registry.sameOrder_of_holdsOnly hab hr hr' hkeys
    exact ⟨validate_eq hgraph hmatch horder, fun s => generate_eq hgraph hmatch horder⟩
  · exact ⟨(generate_eq_of_valid (s := settings) hgraph hmatch hvalid).1,
      fun s => (generate_eq_of_valid hgraph hmatch hvalid).2⟩

end Workspace

/-- A type of gauges with a size and a note. -/
def gauge (fields : Table FieldSpec) : NodeDefinition :=
  ⟨"Gauge", "C", "D", fields, .empty, "t", none⟩

def gaugeSize (default : Value) : FieldSpec := ⟨.number, "Size", none, [], default, false, none⟩

def gaugeNote : FieldSpec := ⟨.text, "Note", none, [], .null, true, none⟩

def sizeFirst : NodeDefinition :=
  gauge ⟨[("size", gaugeSize (.int 1)), ("note", gaugeNote)], by decide⟩

/-- The same with the fields in the other order, and with a default that is equal. -/
def noteFirst : NodeDefinition :=
  gauge ⟨[("note", gaugeNote), ("size", gaugeSize (.bool true))], by decide⟩

/-- An update that is refused, and one that writes both fields. -/
def gaugeUpdates : List (Value × Fields) :=
  [(.text "node_000000001", [(.text "depth", .int 2)]),
    (.text "node_000000001", [(.text "size", .int 5), (.text "note", .text "n")])]

theorem gauges_placed :
    let r := (Registry.empty.add sizeFirst).reindex
    let r' := (Registry.empty.add noteFirst).reindex
    let v := (Workspace.start ⟨[], 1⟩).after (placing r .standard "Gauge" .null gaugeUpdates)
    let v' := (Workspace.start ⟨[], 1⟩).after (placing r' .standard "Gauge" .null gaugeUpdates)
    sizeFirst.eqv noteFirst = true ∧ (Store.validate r).outcome v = .ok [] ∧
      (Store.validate r').outcome v' = .ok [] ∧
      ∀ s, (Store.generate r s).outcome v = (Store.generate r' s).outcome v' := by
  intro r r' v v'
  have heqv : sizeFirst.eqv noteFirst = true := by decide +kernel
  have hvalid : (Store.validate r).outcome v = .ok [] := by decide +kernel
  have hdefaults : DefaultsWritten sizeFirst noteFirst
      (((Workspace.start ⟨[], 1⟩).after []).fresh "node").1 gaugeUpdates := by
    intro name
    by_cases hsize : name = "size"
    · subst hsize
      refine .inr ⟨_, List.mem_cons_of_mem _ List.mem_cons_self, by decide +kernel, ?_,
        List.mem_cons_self⟩
      simp [NodeDefinition.Covers, sizeFirst, gauge, Table.keys]
    · left
      by_cases hnote : name = "note"
      · subst hnote
        rfl
      · simp [sizeFirst, noteFirst, gauge, Table.get?, List.lookup_cons, beq_false_of_ne hsize,
          beq_false_of_ne hnote]
  obtain ⟨-, -, hsame, -⟩ := Workspace.placing_after ⟨[], 1⟩ [] .standard .null gaugeUpdates heqv rfl
    rfl (Registry.holdsOnly_add sizeFirst) (Registry.holdsOnly_add noteFirst) hdefaults
  exact ⟨heqv, hvalid, hsame hvalid⟩

/-! Without these two conditions equal definitions are told apart. -/

/-- The errors that are found on a new node of the type, the only one that is known. -/
def errorsOfNew (d : NodeDefinition) : Except Fault (List NodeErrors) :=
  let r := (Registry.empty.add d).reindex
  (Store.validate r).outcome
    ((Workspace.start ⟨[], 1⟩).after (placing r .standard d.name .null []))

/-- The texts define equal types without hooks, but other errors are found on their new nodes. -/
def ToldApart (x y : String) : Prop :=
  ∃ a b, NodeDefinition.parse Hook.builtin none x = .ok a ∧
    NodeDefinition.parse Hook.builtin none y = .ok b ∧ a.eqv b = true ∧ a.hook = none ∧
      b.hook = none ∧ errorsOfNew a ≠ errorsOfNew b

/-- The texts define equal types without hooks, and these are the errors on their new nodes. -/
def haveErrors (x y : String) (errors errors' : List NodeErrors) : Bool :=
  match NodeDefinition.parse Hook.builtin none x, NodeDefinition.parse Hook.builtin none y with
  | .ok a, .ok b => a.eqv b && a.hook.isNone && b.hook.isNone &&
      decide (errorsOfNew a = .ok errors) && decide (errorsOfNew b = .ok errors')
  | _, _ => false

theorem toldApart_of_errors {x y : String} (errors errors' : List NodeErrors)
    (h : haveErrors x y errors errors' = true) (hne : errors ≠ errors') : ToldApart x y := by
  unfold haveErrors at h
  split at h
  · rename_i a b ha hb
    simp only [Bool.and_eq_true, Option.isNone_iff_eq_none, decide_eq_true_eq] at h
    obtain ⟨⟨⟨⟨heqv, hhook⟩, hhook'⟩, herrors⟩, herrors'⟩ := h
    refine ⟨a, b, ha, hb, heqv, hhook, hhook', fun hsame => hne ?_⟩
    exact Except.ok.inj (herrors.symm.trans (hsame.trans herrors'))
  · cases h

def gaugeText (fields : String) : String :=
  "name: Gauge\ncategory: C\ndescription: D\nfields:\n" ++ fields ++ "pins:\ntemplate: t\n"

def numberText : String := gaugeText "  size: \x7btype: number, label: Size, default: 1\x7d\n"

def tickText : String := gaugeText "  size: \x7btype: number, label: Size, default: true\x7d\n"

def noteText : String := "  note: \x7btype: text, label: Note, required: true\x7d\n"

def unitText : String := "  unit: \x7btype: text, label: Unit, required: true\x7d\n"

/-- Nodes that are not updated show which default they have, and in which order their fields are. -/
theorem gauges_told_apart :
    ToldApart numberText tickText ∧
      ToldApart (gaugeText (noteText ++ unitText)) (gaugeText (unitText ++ noteText)) := by
  constructor
  · exact toldApart_of_errors []
      [⟨"node_000000001", ["Field \"size\" must be a number"]⟩] (by decide +kernel) (by simp)
  · exact toldApart_of_errors
      [⟨"node_000000001", ["Field \"note\" is required", "Field \"unit\" is required"]⟩]
      [⟨"node_000000001", ["Field \"unit\" is required", "Field \"note\" is required"]⟩]
      (by decide +kernel) (by simp)

end NodeGraph
