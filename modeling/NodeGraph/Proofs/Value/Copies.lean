import NodeGraph.Graph
import NodeGraph.Proofs.Yaml.WellFormed

/-!
# Copies of values

A copy is its original but for the order in which sets list their members, so it is the original if
no set in it has two members. Keys, fields, nodes and edges stay in their order.
-/

namespace NodeGraph

namespace Value

/-! ## Parts of copies -/

@[simp] theorem copiedEntries_cons (k v : Value) (entries : List (Value × Value)) :
    copiedEntries ((k, v) :: entries) = (k, v.copied) :: copiedEntries entries := rfl

/-- A copy has the same keys in the same order. -/
@[simp] theorem map_fst_copiedEntries (entries : List (Value × Value)) :
    (copiedEntries entries).map Prod.fst = entries.map Prod.fst := by
  induction entries with
  | nil => rfl
  | cons entry entries ih =>
      obtain ⟨k, v⟩ := entry
      rw [copiedEntries_cons, List.map_cons, List.map_cons, ih]

/-- A copy has copies of the values under its keys. -/
theorem field?_copiedEntries (name : String) (entries : List (Value × Value)) :
    field? name (copiedEntries entries) = (field? name entries).map copied := by
  induction entries with
  | nil => rfl
  | cons entry entries ih =>
      obtain ⟨k, v⟩ := entry
      rw [copiedEntries_cons, field?_cons, field?_cons, ih]
      split <;> rfl

/-- To copy entries and then put in a copy is to put in the value and then copy. -/
theorem copiedEntries_insert (k v : Value) (entries : List (Value × Value)) :
    copiedEntries (insert k v entries) = insert k v.copied (copiedEntries entries) := by
  induction entries with
  | nil => rfl
  | cons entry entries ih =>
      obtain ⟨key, old⟩ := entry
      rw [copiedEntries_cons]
      unfold insert
      split
      · rfl
      · rw [copiedEntries_cons, ih]

/-! ## Other orders -/

mutual

/-- Whether a second value is the first but for the order in which sets list their members. -/
def Reordered : Value → Value → Prop
  | .list items, v => ∃ items', v = .list items' ∧ AllReordered items items'
  | .tuple items, v => ∃ items', v = .tuple items' ∧ AllReordered items items'
  | .map entries, v => ∃ entries', v = .map entries' ∧ EntriesReordered entries entries'
  | .set members, v => ∃ members', v = .set members' ∧ members.Perm members'
  | v, v' => v' = v

def AllReordered : List Value → List Value → Prop
  | [], items => items = []
  | v :: vs, items => ∃ v' vs', items = v' :: vs' ∧ Reordered v v' ∧ AllReordered vs vs'

def EntriesReordered : List (Value × Value) → List (Value × Value) → Prop
  | [], entries => entries = []
  | (k, v) :: more, entries => ∃ v' more', entries = (k, v') :: more' ∧ Reordered v v' ∧
      EntriesReordered more more'

end

mutual

theorem reordered_copied : (v : Value) → v.Reordered v.copied
  | .null | .text _ | .bytes _ | .date _ | .dateTime _ | .bool _ | .int _ | .float _ => rfl
  | .list items => ⟨_, rfl, allReordered_copied items⟩
  | .tuple items => ⟨_, rfl, allReordered_copied items⟩
  | .map entries => ⟨_, rfl, entriesReordered_copied entries⟩
  | .set members => ⟨_, rfl, (arranged_perm 0 members).symm⟩

theorem allReordered_copied : (vs : List Value) → AllReordered vs (copiedItems vs)
  | [] => rfl
  | v :: vs => ⟨_, _, rfl, reordered_copied v, allReordered_copied vs⟩

theorem entriesReordered_copied : (entries : List (Value × Value)) →
    EntriesReordered entries (copiedEntries entries)
  | [] => rfl
  | (_, v) :: more => ⟨_, _, rfl, reordered_copied v, entriesReordered_copied more⟩

end

mutual

theorem reordered_refl : (v : Value) → v.Reordered v
  | .null | .text _ | .bytes _ | .date _ | .dateTime _ | .bool _ | .int _ | .float _ => rfl
  | .list items => ⟨_, rfl, allReordered_refl items⟩
  | .tuple items => ⟨_, rfl, allReordered_refl items⟩
  | .map entries => ⟨_, rfl, entriesReordered_refl entries⟩
  | .set members => ⟨_, rfl, .refl members⟩

theorem allReordered_refl : (vs : List Value) → AllReordered vs vs
  | [] => rfl
  | v :: vs => ⟨_, _, rfl, reordered_refl v, allReordered_refl vs⟩

theorem entriesReordered_refl : (entries : List (Value × Value)) → EntriesReordered entries entries
  | [] => rfl
  | (_, v) :: more => ⟨_, _, rfl, reordered_refl v, entriesReordered_refl more⟩

end

mutual

theorem Reordered.trans (v : Value) {v' v'' : Value} (h : v.Reordered v')
    (h' : v'.Reordered v'') : v.Reordered v'' := by
  cases v with
  | list items =>
      obtain ⟨_, rfl, hitems⟩ := h
      obtain ⟨items', rfl, hitems'⟩ := h'
      exact ⟨items', rfl, AllReordered.trans items hitems hitems'⟩
  | tuple items =>
      obtain ⟨_, rfl, hitems⟩ := h
      obtain ⟨items', rfl, hitems'⟩ := h'
      exact ⟨items', rfl, AllReordered.trans items hitems hitems'⟩
  | map entries =>
      obtain ⟨_, rfl, hentries⟩ := h
      obtain ⟨entries', rfl, hentries'⟩ := h'
      exact ⟨entries', rfl, EntriesReordered.trans entries hentries hentries'⟩
  | set members =>
      obtain ⟨_, rfl, hmembers⟩ := h
      obtain ⟨members', rfl, hmembers'⟩ := h'
      exact ⟨members', rfl, hmembers.trans hmembers'⟩
  | null | text | bytes | date | dateTime | bool | int | float =>
      obtain rfl := h
      exact h'

theorem AllReordered.trans (vs : List Value) {vs' vs'' : List Value} (h : AllReordered vs vs')
    (h' : AllReordered vs' vs'') : AllReordered vs vs'' := by
  cases vs with
  | nil =>
      obtain rfl := h
      exact h'
  | cons v vs =>
      obtain ⟨_, _, rfl, hv, hvs⟩ := h
      obtain ⟨v', vs', rfl, hv', hvs'⟩ := h'
      exact ⟨v', vs', rfl, Reordered.trans v hv hv', AllReordered.trans vs hvs hvs'⟩

theorem EntriesReordered.trans (entries : List (Value × Value))
    {entries' entries'' : List (Value × Value)} (h : EntriesReordered entries entries')
    (h' : EntriesReordered entries' entries'') : EntriesReordered entries entries'' := by
  match entries with
  | [] =>
      obtain rfl := h
      exact h'
  | (_, v) :: more =>
      obtain ⟨_, _, rfl, hv, hmore⟩ := h
      obtain ⟨v', more', rfl, hv', hmore'⟩ := h'
      exact ⟨v', more', rfl, Reordered.trans v hv hv', EntriesReordered.trans more hmore hmore'⟩

end

/-! ## Values with one order only -/

mutual

/-- Whether no set in a value has two members, so that there is only one order for each. -/
def HasOneOrder : Value → Prop
  | .list items | .tuple items => AllHaveOneOrder items
  | .map entries => EntriesHaveOneOrder entries
  | .set members => members.length ≤ 1
  | _ => True

def AllHaveOneOrder : List Value → Prop
  | [] => True
  | v :: vs => HasOneOrder v ∧ AllHaveOneOrder vs

def EntriesHaveOneOrder : List (Value × Value) → Prop
  | [] => True
  | (_, v) :: more => HasOneOrder v ∧ EntriesHaveOneOrder more

end

theorem eq_of_perm_of_length_le_one {members members' : List Value} (h : members.length ≤ 1)
    (hperm : members.Perm members') : members' = members := by
  match members, h with
  | [], _ => exact hperm.symm.eq_nil
  | [v], _ => exact List.perm_singleton.mp hperm.symm

mutual

/-- There is only one order for a value in which no set has two members. -/
theorem Reordered.eq_self (v : Value) {v' : Value} (h : v.Reordered v') (hone : v.HasOneOrder) :
    v' = v := by
  cases v with
  | list items =>
      obtain ⟨items', rfl, hitems⟩ := h
      rw [AllReordered.eq_self items hitems hone]
  | tuple items =>
      obtain ⟨items', rfl, hitems⟩ := h
      rw [AllReordered.eq_self items hitems hone]
  | map entries =>
      obtain ⟨entries', rfl, hentries⟩ := h
      rw [EntriesReordered.eq_self entries hentries hone]
  | set members =>
      obtain ⟨members', rfl, hmembers⟩ := h
      rw [eq_of_perm_of_length_le_one hone hmembers]
  | null | text | bytes | date | dateTime | bool | int | float => exact h

theorem AllReordered.eq_self (vs : List Value) {vs' : List Value} (h : AllReordered vs vs')
    (hone : AllHaveOneOrder vs) : vs' = vs := by
  cases vs with
  | nil => exact h
  | cons v vs =>
      obtain ⟨hv, hvs⟩ := hone
      obtain ⟨v', vs', rfl, hsame, hrest⟩ := h
      rw [Reordered.eq_self v hsame hv, AllReordered.eq_self vs hrest hvs]

theorem EntriesReordered.eq_self (entries : List (Value × Value))
    {entries' : List (Value × Value)} (h : EntriesReordered entries entries')
    (hone : EntriesHaveOneOrder entries) : entries' = entries := by
  match entries with
  | [] => exact h
  | (_, v) :: more =>
      obtain ⟨hv, hmore⟩ := hone
      obtain ⟨v', more', rfl, hsame, hrest⟩ := h
      rw [Reordered.eq_self v hsame hv, EntriesReordered.eq_self more hrest hmore]

end

mutual

/-- There are no sets in plain data. -/
theorem hasOneOrder_of_isPlain : (v : Value) → v.isPlain = true → v.HasOneOrder
  | .null, _ | .text _, _ | .bool _, _ | .int _, _ | .float _, _ => trivial
  | .list items, h => allHaveOneOrder_of_arePlain items h
  | .map entries, h => entriesHaveOneOrder_of_entriesPlain entries h

theorem allHaveOneOrder_of_arePlain : (vs : List Value) → arePlain vs = true → AllHaveOneOrder vs
  | [], _ => trivial
  | v :: vs, h => by
      rw [arePlain, Bool.and_eq_true] at h
      exact ⟨hasOneOrder_of_isPlain v h.1, allHaveOneOrder_of_arePlain vs h.2⟩

theorem entriesHaveOneOrder_of_entriesPlain : (entries : List (Value × Value)) →
    entriesPlain entries = true → EntriesHaveOneOrder entries
  | [], _ => trivial
  | (.text _, v) :: entries, h => by
      rw [entriesPlain, Bool.and_eq_true] at h
      exact ⟨hasOneOrder_of_isPlain v h.1, entriesHaveOneOrder_of_entriesPlain entries h.2⟩

end

end Value

/-! ## Copies of graphs -/

@[simp] theorem Node.map_fst_fields_copied (n : Node) :
    n.copied.fields.map Prod.fst = n.fields.map Prod.fst :=
  Value.map_fst_copiedEntries n.fields

/-- A node but for the order in which the sets in its fields list their members. -/
structure Node.Reordered (n n' : Node) : Prop where
  id_eq : n'.id = n.id
  type_eq : n'.type = n.type
  position_eq : n'.position = n.position
  fields : Value.EntriesReordered n.fields n'.fields

structure Edge.Reordered (e e' : Edge) : Prop where
  id_eq : e'.id = e.id
  source_eq : e'.source = e.source
  output : e.sourceOutput.Reordered e'.sourceOutput
  target_eq : e'.target = e.target
  input : e.targetInput.Reordered e'.targetInput

/-- A graph with its nodes and edges in their order, but for the order in which sets list their
members. -/
structure Graph.Reordered (g g' : Graph) : Prop where
  nodes : List.Forall₂ Node.Reordered g.nodes g'.nodes
  edges : List.Forall₂ Edge.Reordered g.edges g'.edges

theorem Node.reordered_copied (n : Node) : n.Reordered n.copied :=
  ⟨rfl, rfl, rfl, Value.entriesReordered_copied n.fields⟩

theorem Edge.reordered_copied (e : Edge) : e.Reordered e.copied :=
  ⟨rfl, rfl, Value.reordered_copied _, rfl, Value.reordered_copied _⟩

theorem Edge.reordered_refl (e : Edge) : e.Reordered e :=
  ⟨rfl, rfl, Value.reordered_refl _, rfl, Value.reordered_refl _⟩

theorem Graph.reordered_copied (g : Graph) : g.Reordered g.copied where
  nodes := List.forall₂_map_right_iff.mpr (List.forall₂_same.mpr fun n _ => n.reordered_copied)
  edges := List.forall₂_map_right_iff.mpr (List.forall₂_same.mpr fun e _ => e.reordered_copied)

section

variable {n n' n'' : Node} {e e' e'' : Edge} {g g' g'' : Graph}

theorem forall₂_trans {α : Type} {R : α → α → Prop} {xs ys zs : List α}
    (hR : ∀ {x y z}, R x y → R y z → R x z) (h : List.Forall₂ R xs ys)
    (h' : List.Forall₂ R ys zs) : List.Forall₂ R xs zs := by
  induction h generalizing zs with
  | nil => exact h'
  | cons hxy _ ih =>
      cases h' with
      | cons hyz hrest => exact .cons (hR hxy hyz) (ih hrest)

theorem Node.Reordered.trans (h : n.Reordered n') (h' : n'.Reordered n'') : n.Reordered n'' where
  id_eq := h'.id_eq.trans h.id_eq
  type_eq := h'.type_eq.trans h.type_eq
  position_eq := h'.position_eq.trans h.position_eq
  fields := Value.EntriesReordered.trans n.fields h.fields h'.fields

theorem Edge.Reordered.trans (h : e.Reordered e') (h' : e'.Reordered e'') : e.Reordered e'' where
  id_eq := h'.id_eq.trans h.id_eq
  source_eq := h'.source_eq.trans h.source_eq
  output := Value.Reordered.trans e.sourceOutput h.output h'.output
  target_eq := h'.target_eq.trans h.target_eq
  input := Value.Reordered.trans e.targetInput h.input h'.input

theorem Graph.Reordered.trans (h : g.Reordered g') (h' : g'.Reordered g'') : g.Reordered g'' where
  nodes := forall₂_trans Node.Reordered.trans h.nodes h'.nodes
  edges := forall₂_trans Edge.Reordered.trans h.edges h'.edges

/-- The ids of nodes, and the ids and ends of edges, are where they were. -/
theorem Graph.Reordered.shape_eq (h : g.Reordered g') :
    g'.ids = g.ids ∧ g'.edges.map (fun e => (e.id, e.source, e.target)) =
      g.edges.map fun e => (e.id, e.source, e.target) := by
  have hnodes : List.Forall₂ Eq g.ids g'.ids :=
    List.forall₂_map_left_iff.mpr (List.forall₂_map_right_iff.mpr
      (h.nodes.imp fun _ _ hn => hn.id_eq.symm))
  have hedges : List.Forall₂ Eq (g.edges.map fun e => (e.id, e.source, e.target))
      (g'.edges.map fun e => (e.id, e.source, e.target)) :=
    List.forall₂_map_left_iff.mpr (List.forall₂_map_right_iff.mpr (h.edges.imp fun e e' he => by
      rw [he.id_eq, he.source_eq, he.target_eq]))
  rw [List.forall₂_eq_eq_eq] at hnodes hedges
  exact ⟨hnodes.symm, hedges.symm⟩

/-- No set in the fields and pins of a graph has two members. -/
structure Graph.HasOneOrder (g : Graph) : Prop where
  fields : ∀ n ∈ g.nodes, Value.EntriesHaveOneOrder n.fields
  pins : ∀ e ∈ g.edges, e.sourceOutput.HasOneOrder ∧ e.targetInput.HasOneOrder

theorem Node.Reordered.eq_self (h : n.Reordered n') (hone : Value.EntriesHaveOneOrder n.fields) :
    n' = n := by
  obtain ⟨id', type', position', fields'⟩ := n'
  obtain ⟨rfl, rfl, rfl, hfields⟩ := h
  exact congrArg _ (Value.EntriesReordered.eq_self n.fields hfields hone)

theorem Edge.Reordered.eq_self (h : e.Reordered e')
    (hone : e.sourceOutput.HasOneOrder ∧ e.targetInput.HasOneOrder) : e' = e := by
  obtain ⟨id', source', output', target', input'⟩ := e'
  obtain ⟨rfl, rfl, houtput, rfl, hinput⟩ := h
  exact congrArg₂ (fun output input => Edge.mk e.id e.source output e.target input)
    (Value.Reordered.eq_self _ houtput hone.1) (Value.Reordered.eq_self _ hinput hone.2)

/-- There is only one order for a graph in which no set has two members. -/
theorem Graph.Reordered.eq_self (h : g.Reordered g') (hone : g.HasOneOrder) : g' = g := by
  have hnodes : List.Forall₂ Eq g.nodes g'.nodes :=
    ((List.forall₂_and_left _ _).mpr ⟨hone.fields, h.nodes⟩).imp
      fun n n' hn => (hn.2.eq_self hn.1).symm
  have hedges : List.Forall₂ Eq g.edges g'.edges :=
    ((List.forall₂_and_left _ _).mpr ⟨hone.pins, h.edges⟩).imp
      fun e e' he => (he.2.eq_self he.1).symm
  rw [List.forall₂_eq_eq_eq] at hnodes hedges
  exact congrArg₂ Graph.mk hnodes.symm hedges.symm

end

end NodeGraph
