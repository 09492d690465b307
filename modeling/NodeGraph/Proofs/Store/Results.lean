import NodeGraph.Proofs.Schema
import NodeGraph.Proofs.Store.Edit
import NodeGraph.Proofs.Table

/-!
# What edits do

One lemma per edit: what was found in the store when the edit succeeds, what it returns, and the
workspace that it leaves. The edits of single nodes and edges all end with putting one under its id.
-/

namespace NodeGraph.Store

open Edit

variable {r : Registry} {s : Store} {w w' : Workspace} {id : Value} {key : String}

/-- The store with a node under its id. -/
def putNode (s : Store) (n : Node) : Store := { s with nodes := s.nodes.insert n.id n }

/-- The store with an edge under its id. -/
def putEdge (s : Store) (e : Edge) : Store := { s with edges := s.edges.insert e.id e }

/-! ## Looking up -/

theorem keyOf_eq_some_iff : keyOf id = .ok (some key) ↔ id = .text key := by
  unfold keyOf
  split
  · simp
  · rename_i hnot
    constructor
    · intro h
      split at h <;> cases h
    · intro h
      exact absurd h (hnot key)

theorem ne_text_of_keyOf_eq_none (h : keyOf id = .ok none) : id ≠ .text key := by
  rintro rfl
  cases h

theorem node?_eq_some_iff {n : Node} :
    s.node? id = .ok (some n) ↔ ∃ key, id = .text key ∧ s.nodes.get? key = some n := by
  rw [node?, bind_eq_ok_iff]
  constructor
  · rintro ⟨found, hkey, h⟩
    obtain ⟨key, rfl, hget⟩ := Option.bind_eq_some_iff.mp (pure_eq_ok_iff.mp h)
    exact ⟨key, keyOf_eq_some_iff.mp hkey, hget⟩
  · rintro ⟨key, rfl, hget⟩
    exact ⟨some key, rfl, congrArg _ hget⟩

theorem edge?_eq_some_iff {e : Edge} :
    s.edge? id = .ok (some e) ↔ ∃ key, id = .text key ∧ s.edges.get? key = some e := by
  rw [edge?, bind_eq_ok_iff]
  constructor
  · rintro ⟨found, hkey, h⟩
    obtain ⟨key, rfl, hget⟩ := Option.bind_eq_some_iff.mp (pure_eq_ok_iff.mp h)
    exact ⟨key, keyOf_eq_some_iff.mp hkey, hget⟩
  · rintro ⟨key, rfl, hget⟩
    exact ⟨some key, rfl, congrArg _ hget⟩

theorem requireNode_eq_ok_iff :
    s.requireNode id = .ok key ↔ id = .text key ∧ key ∈ s.nodes.keys := by
  rw [requireNode, bind_eq_ok_iff]
  constructor
  · rintro ⟨found, hkey, h⟩
    cases found with
    | none => cases h
    | some found =>
        by_cases hmem : found ∈ s.nodes.keys
        · simp only [Table.contains_iff, hmem, if_true, pure_eq_ok_iff] at h
          subst h
          exact ⟨keyOf_eq_some_iff.mp hkey, hmem⟩
        · simp only [Table.contains_iff, hmem, if_false] at h
          cases h
  · rintro ⟨rfl, hmem⟩
    refine ⟨some key, rfl, ?_⟩
    simp only [Table.contains_iff, hmem, if_true, pure_eq_ok_iff]

/-! ## Nodes -/

/-- A new node of a type. -/
def created (d : NodeDefinition) (id : String) (position : Position) : Node :=
  ⟨id, d.name, position, Value.copiedEntries d.initialFields⟩

theorem addNode_eq_ok {type position : Value} {n : Node}
    (h : (addNode r type position).run w = .ok n w') :
    ∃ name d p, type = .text name ∧ r.require name = .ok d ∧ positionOf position = .ok p ∧
      n = (created d (w.fresh "node").1 p).copied ∧
      w' = ⟨w.store.putNode (created d (w.fresh "node").1 p), (w.fresh "node").2⟩ := by
  rw [addNode, run_orFail_bind_eq_ok_iff] at h
  obtain ⟨found, htype, h⟩ := h
  cases found with
  | none =>
      rw [run_throw_bind] at h
      cases h
  | some name =>
      simp only [run_orFail_bind_eq_ok_iff, run_newId_bind, run_store_bind, run_setStore_bind,
        run_pure_eq_ok_iff] at h
      obtain ⟨d, hd, p, hp, rfl, rfl⟩ := h
      exact ⟨name, d, p, keyOf_eq_some_iff.mp htype, hd, hp, rfl, rfl⟩

/-- An edit of one node starts by looking it up, and does nothing if there is none. -/
theorem run_node?_eq_ok {k : Store → Node → Edit (Option Node)} {result : Option Node}
    (h : (do
      let s ← store
      match ← orFail (s.node? id) with
      | none => return none
      | some n => k s n : Edit (Option Node)).run w = .ok result w') :
    (w.store.node? id = .ok none ∧ result = none ∧ w' = w) ∨
      ∃ key n, id = .text key ∧ w.store.nodes.get? key = some n ∧
        (k w.store n).run w = .ok result w' := by
  rw [run_store_bind, run_orFail_bind_eq_ok_iff] at h
  obtain ⟨found, hfound, h⟩ := h
  cases found with
  | none =>
      rw [run_pure_eq_ok_iff] at h
      exact .inl ⟨hfound, h.1.symm, h.2.symm⟩
  | some n =>
      obtain ⟨key, hid, hget⟩ := node?_eq_some_iff.mp hfound
      exact .inr ⟨key, n, hid, hget, h⟩

/-- The node with copies of the values of an update in its fields. -/
def updated (n : Node) (fields : Fields) : Node :=
  { n with
    fields := (Value.copiedEntries fields).foldl (fun entries (k, v) => Value.insert k v entries)
      n.fields }

theorem updateNode_eq_ok {fields : Fields} {result : Option Node}
    (h : (updateNode r id fields).run w = .ok result w') :
    (w.store.node? id = .ok none ∧ result = none ∧ w' = w) ∨
      ∃ key n, id = .text key ∧ w.store.nodes.get? key = some n ∧
        (∀ d, r.get? n.type = some d → checkFields d id fields = .ok ()) ∧
        result = some (updated n fields).copied ∧
        w' = ⟨w.store.putNode (updated n fields), w.ids⟩ := by
  rw [updateNode] at h
  rcases run_node?_eq_ok h with hnone | ⟨key, n, hid, hget, h⟩
  · exact .inl hnone
  · refine .inr ⟨key, n, hid, hget, ?_⟩
    cases htype : r.get? n.type with
    | none =>
        simp only [htype, run_setStore_bind, run_pure_eq_ok_iff] at h
        obtain ⟨rfl, rfl⟩ := h
        exact ⟨fun d hd => (Option.some_ne_none d hd.symm).elim, rfl, rfl⟩
    | some d =>
        simp only [htype, run_orFail_bind_eq_ok_iff, run_setStore_bind, run_pure_eq_ok_iff] at h
        obtain ⟨_, hcheck, rfl, rfl⟩ := h
        exact ⟨fun d' hd => Option.some.inj hd ▸ hcheck, rfl, rfl⟩

theorem moveNode_eq_ok {position : Value} {result : Option Node}
    (h : (moveNode id position).run w = .ok result w') :
    (w.store.node? id = .ok none ∧ result = none ∧ w' = w) ∨
      ∃ key n p, id = .text key ∧ w.store.nodes.get? key = some n ∧ positionOf position = .ok p ∧
        result = some { n with position := p }.copied ∧
        w' = ⟨w.store.putNode { n with position := p }, w.ids⟩ := by
  rw [moveNode] at h
  rcases run_node?_eq_ok h with hnone | ⟨key, n, hid, hget, h⟩
  · exact .inl hnone
  · simp only [run_orFail_bind_eq_ok_iff, setPosition, run_setStore_bind, run_pure_eq_ok_iff] at h
    obtain ⟨p, hp, rfl, rfl⟩ := h
    exact .inr ⟨key, n, p, hid, hget, hp, rfl, rfl⟩

theorem moveNodeTo_eq_ok {position : Position} {result : Option Node}
    (h : (moveNodeTo id position).run w = .ok result w') :
    (w.store.node? id = .ok none ∧ result = none ∧ w' = w) ∨
      ∃ key n, id = .text key ∧ w.store.nodes.get? key = some n ∧
        result = some { n with position := position }.copied ∧
        w' = ⟨w.store.putNode { n with position := position }, w.ids⟩ := by
  rw [moveNodeTo] at h
  rcases run_node?_eq_ok h with hnone | ⟨key, n, hid, hget, h⟩
  · exact .inl hnone
  · simp only [setPosition, run_setStore_bind, run_pure_eq_ok_iff] at h
    obtain ⟨rfl, rfl⟩ := h
    exact .inr ⟨key, n, hid, hget, rfl, rfl⟩

/-- The copy of a node under another id, shifted by `offset` in both directions. -/
def duplicated (n : Node) (id : String) (offset : Double) : Node :=
  { n.copied with id := id, position := ⟨n.position.x.add offset, n.position.y.add offset⟩ }

theorem duplicateNode_eq_ok {offset : Double} {result : Option Node}
    (h : (duplicateNode offset id).run w = .ok result w') :
    (w.store.node? id = .ok none ∧ result = none ∧ w' = w) ∨
      ∃ key n copy, id = .text key ∧ w.store.nodes.get? key = some n ∧
        copy = duplicated n (w.fresh "node").1 offset ∧ result = some copy.copied ∧
        w' = ⟨w.store.putNode copy, (w.fresh "node").2⟩ := by
  rw [duplicateNode] at h
  rcases run_node?_eq_ok h with hnone | ⟨key, n, hid, hget, h⟩
  · exact .inl hnone
  · simp only [run_newId_bind, run_setStore_bind, run_pure_eq_ok_iff] at h
    obtain ⟨rfl, rfl⟩ := h
    exact .inr ⟨key, n, _, hid, hget, rfl, rfl, rfl⟩

/-- A deletion writes only if something is stored under the id. -/
theorem run_deletion_eq_ok {α : Type} {t : Table α} {write : String → Store} {found : Bool}
    (h : (do
      match ← orFail (keyOf id) with
      | none => return false
      | some key =>
        if !t.contains key then return false
        setStore (write key)
        return true : Edit Bool).run w = .ok found w') :
    ((∀ key, id = .text key → key ∉ t.keys) ∧ found = false ∧ w' = w) ∨
      ∃ key, id = .text key ∧ key ∈ t.keys ∧ found = true ∧ w' = ⟨write key, w.ids⟩ := by
  rw [run_orFail_bind_eq_ok_iff] at h
  obtain ⟨key?, hkey, h⟩ := h
  cases key? with
  | none =>
      rw [run_pure_eq_ok_iff] at h
      exact .inl ⟨fun _ hid => absurd hid (ne_text_of_keyOf_eq_none hkey), h.1.symm, h.2.symm⟩
  | some key =>
      have hid := keyOf_eq_some_iff.mp hkey
      subst hid
      by_cases hmem : key ∈ t.keys
      · simp only [Table.contains_iff.mpr hmem, Bool.not_true, Bool.false_eq_true, if_false,
          run_setStore_bind, run_pure_eq_ok_iff] at h
        exact .inr ⟨key, rfl, hmem, h.1.symm, h.2.symm⟩
      · have hcontains : t.contains key = false :=
          Bool.eq_false_iff.mpr fun hc => hmem (Table.contains_iff.mp hc)
        simp only [hcontains, Bool.not_false, if_true, run_pure_eq_ok_iff] at h
        exact .inl ⟨fun other hother => Value.text.inj hother ▸ hmem, h.1.symm, h.2.symm⟩

/-- The store without a node and its edges, where nothing refers to the node any more. -/
def withoutNode (s : Store) (key : String) : Store :=
  { s with
    nodes := s.nodes.erase key
    edges := s.edges.filter fun _ e => e.source ≠ key && e.target ≠ key
    selected := if s.selected.eqv (.text key) then .null else s.selected
    highlighted := s.highlighted.filter fun h => !h.eqv (.text key) }

theorem deleteNode_eq_ok {found : Bool} (h : (deleteNode id).run w = .ok found w') :
    ((∀ key, id = .text key → key ∉ w.store.nodes.keys) ∧ found = false ∧ w' = w) ∨
      ∃ key, id = .text key ∧ key ∈ w.store.nodes.keys ∧ found = true ∧
        w' = ⟨w.store.withoutNode key, w.ids⟩ := by
  rw [deleteNode, run_store_bind] at h
  rcases run_deletion_eq_ok h with hnone | ⟨key, rfl, hmem, hfound, hw⟩
  · exact .inl hnone
  · exact .inr ⟨key, rfl, hmem, hfound, hw⟩

/-! ## Edges -/

/-- What it takes for an edge to be put between two nodes of the store. -/
structure Connects (s : Store) (source output target input : Value) (e : Edge) : Prop where
  source_eq : source = .text e.source
  source_mem : e.source ∈ s.nodes.keys
  target_eq : target = .text e.target
  target_mem : e.target ∈ s.nodes.keys
  output_text : ∃ name, Schema.text output = .good name ∧ .text name = e.sourceOutput
  input_text : ∃ name, Schema.text input = .good name ∧ .text name = e.targetInput

theorem connects_of_decode {source output target input : Value} {e : Edge}
    (hsource : ∃ key, s.requireNode source = .ok key)
    (htarget : ∃ key, s.requireNode target = .ok key)
    (hdecode : Edge.decode (.map [(.text "id", id), (.text "source", source),
      (.text "source_output", output), (.text "target", target), (.text "target_input", input)]) =
        .good e) :
    Schema.text id = .good e.id ∧ s.Connects source output target input e := by
  obtain ⟨sourceKey, hsource⟩ := hsource
  obtain ⟨targetKey, htarget⟩ := htarget
  obtain ⟨rfl, hsourceMem⟩ := requireNode_eq_ok_iff.mp hsource
  obtain ⟨rfl, htargetMem⟩ := requireNode_eq_ok_iff.mp htarget
  obtain ⟨hid, hs, houtput, ht, hinput⟩ := Edge.decode_parts_eq_good_iff.mp hdecode
  have hs := Schema.text_eq_good_of_text hs
  have ht := Schema.text_eq_good_of_text ht
  subst hs ht
  exact ⟨hid, rfl, hsourceMem, rfl, htargetMem, houtput, hinput⟩

/-- An edge is only added under an id that no edge has. -/
theorem run_unused_eq_ok {β : Type} {k : Edit β} {b : β}
    (h : (do
      match id with
      | .null => pure ()
      | id =>
        match ← orFail (keyOf id) with
        | some key => if s.edges.contains key then throw (.duplicateEdge key)
        | none => pure ()
      k : Edit β).run w = .ok b w') :
    (∀ key, id = .text key → key ∉ s.edges.keys) ∧ k.run w = .ok b w' := by
  dsimp only at h
  split at h
  · exact ⟨fun _ hid => Value.noConfusion hid, h⟩
  · rw [run_orFail_bind_eq_ok_iff] at h
    obtain ⟨found, hkey, h⟩ := h
    cases found with
    | none => exact ⟨fun _ hid => absurd hid (ne_text_of_keyOf_eq_none hkey), h⟩
    | some key =>
        have hid := keyOf_eq_some_iff.mp hkey
        subst hid
        by_cases hmem : key ∈ s.edges.keys
        · simp only [Table.contains_iff, hmem, if_true, run_throw_bind] at h
          cases h
        · simp only [Table.contains_iff, hmem, if_false] at h
          exact ⟨fun other hother => Value.text.inj hother ▸ hmem, h⟩

/-- The id that is given is taken if it counts as true, and else a new one is drawn. -/
theorem run_wantedId_bind {β : Type} (k : Value → Edit β) :
    (wantedId id >>= k).run w =
      if id.isTruthy then (k id).run w
      else (k (.text (w.fresh "edge").1)).run ⟨w.store, (w.fresh "edge").2⟩ := by
  unfold wantedId
  split <;> rfl

theorem addEdge_eq_ok {source output target input : Value} {e : Edge}
    (h : (addEdge source output target input id).run w = .ok e w') :
    w.store.Connects source output target input e ∧
      (∀ key, id = .text key → key ∉ w.store.edges.keys) ∧
      ((id.isTruthy = true ∧ Schema.text id = .good e.id ∧ w' = ⟨w.store.putEdge e, w.ids⟩) ∨
        (id.isTruthy = false ∧ e.id = (w.fresh "edge").1 ∧
          w' = ⟨w.store.putEdge e, (w.fresh "edge").2⟩)) := by
  rw [addEdge, run_store_bind, run_orFail_bind_eq_ok_iff] at h
  obtain ⟨sourceKey, hsource, h⟩ := h
  rw [run_orFail_bind_eq_ok_iff] at h
  obtain ⟨targetKey, htarget, h⟩ := h
  obtain ⟨hunused, h⟩ := run_unused_eq_ok h
  rw [run_wantedId_bind] at h
  by_cases htruthy : id.isTruthy = true
  · rw [if_pos htruthy] at h
    simp only [run_orFail_bind_eq_ok_iff, Checked.orFault_eq_ok_iff, run_setStore_bind,
      run_pure_eq_ok_iff] at h
    obtain ⟨_, hdecode, rfl, rfl⟩ := h
    obtain ⟨hid, hconnects⟩ := connects_of_decode ⟨_, hsource⟩ ⟨_, htarget⟩ hdecode
    exact ⟨hconnects, hunused, .inl ⟨htruthy, hid, rfl⟩⟩
  · rw [if_neg htruthy] at h
    simp only [run_orFail_bind_eq_ok_iff, Checked.orFault_eq_ok_iff, run_setStore_bind,
      run_pure_eq_ok_iff] at h
    obtain ⟨_, hdecode, rfl, rfl⟩ := h
    obtain ⟨hid, hconnects⟩ := connects_of_decode ⟨_, hsource⟩ ⟨_, htarget⟩ hdecode
    have hid := Schema.text_eq_good_of_text hid
    exact ⟨hconnects, hunused, .inr ⟨Bool.eq_false_iff.mpr htruthy, hid.symm, rfl⟩⟩

/-- The edge with new ends and pins. -/
def redirected (e : Edge) (source target : String) (changes : EdgeChanges) : Edge :=
  { e with
    source := source
    sourceOutput := changed e.sourceOutput changes.sourceOutput
    target := target
    targetInput := changed e.targetInput changes.targetInput }

theorem updateEdge_eq_ok {changes : EdgeChanges} {result : Option Edge}
    (h : (updateEdge id changes).run w = .ok result w') :
    (w.store.edge? id = .ok none ∧ result = none ∧ w' = w) ∨
      ∃ key e source target, id = .text key ∧ w.store.edges.get? key = some e ∧
        changed (.text e.source) changes.source = .text source ∧ source ∈ w.store.nodes.keys ∧
        changed (.text e.target) changes.target = .text target ∧ target ∈ w.store.nodes.keys ∧
        result = some (redirected e source target changes) ∧
        w' = ⟨w.store.putEdge (redirected e source target changes), w.ids⟩ := by
  rw [updateEdge, run_store_bind, run_orFail_bind_eq_ok_iff] at h
  obtain ⟨found, hfound, h⟩ := h
  cases found with
  | none =>
      rw [run_pure_eq_ok_iff] at h
      exact .inl ⟨hfound, h.1.symm, h.2.symm⟩
  | some e =>
      obtain ⟨key, hid, hget⟩ := edge?_eq_some_iff.mp hfound
      simp only [run_orFail_bind_eq_ok_iff, requireNode_eq_ok_iff, run_setStore_bind,
        run_pure_eq_ok_iff] at h
      obtain ⟨source, ⟨hsource, hsourceMem⟩, target, ⟨htarget, htargetMem⟩, rfl, rfl⟩ := h
      exact .inr ⟨key, e, source, target, hid, hget, hsource, hsourceMem, htarget, htargetMem,
        rfl, rfl⟩

theorem deleteEdge_eq_ok {found : Bool} (h : (deleteEdge id).run w = .ok found w') :
    ((∀ key, id = .text key → key ∉ w.store.edges.keys) ∧ found = false ∧ w' = w) ∨
      ∃ key, id = .text key ∧ key ∈ w.store.edges.keys ∧ found = true ∧
        w' = ⟨{ w.store with edges := w.store.edges.erase key }, w.ids⟩ := by
  rw [deleteEdge, run_store_bind] at h
  split at h
  · rename_i hempty
    rw [run_pure_eq_ok_iff] at h
    have hnone := List.isEmpty_iff.mp hempty
    exact .inl ⟨fun key _ hmem => List.not_mem_nil (hnone ▸ hmem), h.1.symm, h.2.symm⟩
  · exact run_deletion_eq_ok h

/-! ## The whole graph -/

theorem importValues_eq_ok {nodes edges : Value} {u : Unit}
    (h : (importValues nodes edges).run w = .ok u w') :
    ∃ nodeItems edgeItems, parts nodes = .ok nodeItems ∧ parts edges = .ok edgeItems ∧
      (importGraph (nodeItems.map Node.decode) (edgeItems.map Edge.decode)).run w = .ok u w' := by
  simp only [importValues, run_orFail_bind_eq_ok_iff, run_setStore] at h
  obtain ⟨nodeItems, hnodes, found, hfound, edgeItems, hedges, wires, hwires, h⟩ := h
  refine ⟨nodeItems, edgeItems, hnodes, hedges, ?_⟩
  simp only [importGraph, run_orFail_bind_eq_ok_iff, run_setStore]
  exact ⟨found, hfound, wires, hwires, h⟩

theorem openProject_eq_ok {text : String} {p : Project}
    (h : (openProject text).run w = .ok p w') :
    Project.ofText text = .ok p ∧ (openGraph p.graph).run w = .ok () w' := by
  rw [openProject, run_orFail_bind_eq_ok_iff] at h
  obtain ⟨p', hread, h⟩ := h
  obtain ⟨u, w₁, hopen, h⟩ := run_bind_eq_ok_iff.mp h
  obtain ⟨rfl, rfl⟩ := run_pure_eq_ok_iff.mp h
  exact ⟨hread, hopen⟩

theorem validate_eq_ok {errors : List NodeErrors} (h : (validate r).run w = .ok errors w') :
    NodeGraph.validate w.store.graph r = .ok errors ∧
      w' = ⟨{ w.store with errors := errors }, w.ids⟩ := by
  simp only [validate, run_store_bind, run_orFail_bind_eq_ok_iff, run_setStore_bind,
    run_pure_eq_ok_iff] at h
  obtain ⟨_, hvalidate, rfl, rfl⟩ := h
  exact ⟨hvalidate, rfl⟩

end NodeGraph.Store
