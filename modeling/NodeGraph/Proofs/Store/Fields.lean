import NodeGraph.Proofs.Registry.History
import NodeGraph.Proofs.Store.Integrity
import NodeGraph.Proofs.Store.Opening

/-!
# Fields of nodes

A node of a known type has the fields that its definition declares, in the order of the definition,
and no others. Nothing but a graph that is taken over can bring other nodes into the store: a new
node has the declared fields, an update may only name declared ones and leaves all keys where they
are, and a copy has the fields of its original.
-/

namespace NodeGraph

/-- If the type of the node is known, its fields are those that the definition declares, in their
order. -/
def Node.HasFields (r : Registry) (n : Node) : Prop :=
  ∀ d, r.get? n.type = some d → n.fields.map Prod.fst = d.fields.keys.map .text

/-! ## Keys under updates -/

/-- A value that is put under a key that is there leaves all keys as they are. -/
theorem Value.map_fst_insert {name : String} {entries : Fields} (v : Value)
    (h : Value.text name ∈ entries.map Prod.fst) :
    (Value.insert (.text name) v entries).map Prod.fst = entries.map Prod.fst := by
  induction entries with
  | nil => cases h
  | cons entry rest ih =>
      obtain ⟨key, old⟩ := entry
      unfold Value.insert
      by_cases hkey : (Value.text name).eqv key = true
      · rw [if_pos hkey]
        rfl
      · rw [if_neg hkey]
        rcases List.mem_cons.mp h with hfirst | hrest
        · exact absurd (Value.text_eqv_iff.mpr hfirst.symm) hkey
        · rw [List.map_cons, ih hrest, List.map_cons]

namespace Store

variable {r : Registry} {d : NodeDefinition} {n : Node} {id : Value} {fields : Fields}

/-- The keys of an update that is let through are names that the definition declares. -/
theorem declared_of_checkFields (h : checkFields d id fields = .ok ()) :
    ∀ entry ∈ fields, ∃ name ∈ d.fields.keys, entry.1 = .text name := by
  have hnone : undeclared d fields = [] := by
    unfold checkFields at h
    split at h
    · assumption
    · split at h <;> cases h
  rintro ⟨key, v⟩ hentry
  have hkey := List.filter_eq_nil_iff.mp hnone (key, v) hentry
  cases key with
  | text name =>
      simp only [Bool.not_eq_true, Bool.not_eq_false', Table.contains_iff] at hkey
      exact ⟨name, hkey, rfl⟩
  | _ => exact absurd rfl hkey

/-- Values that are put under keys that are there leave all keys as they are. -/
theorem map_fst_foldl_insert {entries : Fields}
    (h : ∀ key ∈ fields.map Prod.fst, ∃ name, key = .text name ∧ key ∈ entries.map Prod.fst) :
    (fields.foldl (fun entries pair => Value.insert pair.1 pair.2 entries) entries).map Prod.fst =
      entries.map Prod.fst := by
  induction fields generalizing entries with
  | nil => rfl
  | cons entry fields ih =>
      obtain ⟨key, v⟩ := entry
      obtain ⟨⟨name, rfl, hmem⟩, hrest⟩ := List.forall_mem_cons.mp h
      have hkeys := Value.map_fst_insert v hmem
      -- the other keys are still there after the first is written
      rw [List.foldl_cons, ih (hkeys.symm ▸ hrest), hkeys]

/-- An update of fields that are there leaves the keys as they are. -/
theorem map_fst_updated
    (h : ∀ entry ∈ fields, ∃ name, entry.1 = .text name ∧ .text name ∈ n.fields.map Prod.fst) :
    (updated n fields).fields.map Prod.fst = n.fields.map Prod.fst := by
  refine map_fst_foldl_insert ?_
  rw [Value.map_fst_copiedEntries]
  intro key hkey
  obtain ⟨entry, hentry, rfl⟩ := List.mem_map.mp hkey
  obtain ⟨name, heq, hmem⟩ := h entry hentry
  exact ⟨name, heq, heq ▸ hmem⟩

theorem hasFields_copied (hn : n.HasFields r) : n.copied.HasFields r := by
  intro d hd
  rw [Node.map_fst_fields_copied]
  exact hn d hd

theorem hasFields_updated (hn : n.HasFields r)
    (hcheck : ∀ d, r.get? n.type = some d → checkFields d id fields = .ok ()) :
    (updated n fields).HasFields r := by
  intro d hd
  have hkeys := hn d hd
  refine (map_fst_updated ?_).trans hkeys
  intro entry hentry
  obtain ⟨name, hname, heq⟩ := declared_of_checkFields (hcheck d hd) entry hentry
  exact ⟨name, heq, hkeys ▸ List.mem_map_of_mem hname⟩

end Store

theorem NodeDefinition.map_fst_initialFields (d : NodeDefinition) :
    d.initialFields.map Prod.fst = d.fields.keys.map .text := by
  simp [initialFields, Table.keys]

open Edit Store

/-! ## Where nodes come from -/

/-- The nodes of the graph that an operation is given to take over, if that graph can be read. -/
inductive Operation.Given : Operation → List Node → Prop
  | importGraph {items : List (Checked Node)} {edges : List (Checked Edge)} {nodes : List Node}
      (hread : items = nodes.map .good) : Given (.importGraph items edges) nodes
  | importValues {nodes edges : Value} {items : List Value} {found : List Node}
      (hparts : parts nodes = .ok items) (hread : items.map Node.decode = found.map Checked.good) :
      Given (.importValues nodes edges) found
  | openProject {text : String} {p : Project} (hread : Project.ofText text = .ok p) :
      Given (.openProject text) p.graph.nodes
  | openFile {files : Files} {file : Path} {text : String} {p : Project}
      (htext : files.readText file = .ok text) (hread : Project.ofText text = .ok p) :
      Given (.openFile files file) p.graph.nodes

/-- How a node got into the store in which an operation leaves it. -/
inductive Operation.Leaves (r : Registry) (s : Store) : Operation → Node → Prop
  /-- It was there, maybe at another place. -/
  | kept {operation : Operation} {n : Node} (position : Position) (hn : n ∈ s.nodes.values) :
      Leaves r s operation { n with position := position }
  | added {name : String} {v : Value} {d : NodeDefinition} (id : String) (position : Position)
      (hd : r.require name = .ok d) : Leaves r s (.addNode (.text name) v) (created d id position)
  | duplicated {original : Value} {n : Node} (id : String) (offset : Double)
      (hn : n ∈ s.nodes.values) : Leaves r s (.duplicateNode original) (duplicated n id offset)
  | updated {n : Node} {id : Value} {fields : Fields} (hn : n ∈ s.nodes.values)
      (hcheck : ∀ d, r.get? n.type = some d → checkFields d id fields = .ok ()) :
      Leaves r s (.updateNode id fields) (updated n fields)
  | given {operation : Operation} {nodes : List Node} {n : Node}
      (hgiven : operation.Given nodes) (hn : n ∈ nodes) : Leaves r s operation n.copied

variable {r : Registry} {settings : Settings} {w w' : Workspace} {operation : Operation}
  {allocated : Option String}

theorem Operation.Leaves.stays {n : Node} (hn : n ∈ w.store.nodes.values) :
    operation.Leaves r w.store n :=
  .kept n.position hn

namespace Store

/-- A graph is taken over with copies of all its nodes, and only if all of them can be read. -/
theorem importGraph_nodes {items : List (Checked Node)} {edges : List (Checked Edge)} {u : Unit}
    (h : (importGraph items edges).run w = .ok u w') :
    ∃ nodes : List Node,
      items = nodes.map .good ∧ w'.store.nodes.values = nodes.map Node.copied := by
  obtain ⟨g, hsound, rfl, _, rfl⟩ := importGraph_eq_ok_iff.mp h
  exact ⟨g.nodes, rfl, Table.values_under _ _ (Graph.sound_taken_iff.mpr hsound).nodup_ids⟩

theorem mem_values_putNode {s : Store} {n m : Node} (h : n ∈ (s.putNode m).nodes.values) :
    n = m ∨ n ∈ s.nodes.values := by
  obtain ⟨key, hget⟩ := Table.mem_values_iff.mp h
  rw [putNode, Table.get?_insert] at hget
  split at hget
  · exact .inl (Option.some.inj hget).symm
  · exact .inr (Table.mem_values_iff.mpr ⟨key, hget⟩)

theorem mem_values_of_openGraph {g : Graph} {u : Unit} {n : Node}
    (h : (openGraph g).run w = .ok u w') (hn : n ∈ w'.store.nodes.values) :
    ∃ m ∈ g.nodes, m.copied = n := by
  obtain ⟨_, hgraph, _⟩ := openGraph_eq_ok h
  have hn : n ∈ w'.store.graph.nodes := hn
  rw [hgraph] at hn
  exact List.mem_map.mp hn

end Store

/-- Every node after an operation that succeeds was there, is new, was updated or was given. -/
theorem Operation.leaves_of_ok (h : (operation.run r settings).run w = .ok allocated w') :
    ∀ n ∈ w'.store.nodes.values, operation.Leaves r w.store n := by
  intro n hn
  cases operation with
  | addNode type position =>
      obtain ⟨m, hrun, _⟩ := run_bind_pure_eq_ok_iff.mp h
      obtain ⟨name, d, p, rfl, hd, _, rfl, rfl⟩ := addNode_eq_ok hrun
      rcases mem_values_putNode hn with rfl | hn
      · exact .added _ p hd
      · exact .stays hn
  | updateNode id fields =>
      obtain ⟨result, hrun, _⟩ := run_bind_pure_eq_ok_iff.mp h
      rcases updateNode_eq_ok hrun with ⟨_, _, rfl⟩ | ⟨key, m, _, hget, hcheck, _, rfl⟩
      · exact .stays hn
      · rcases mem_values_putNode hn with rfl | hn
        · exact .updated (Table.mem_values_iff.mpr ⟨key, hget⟩) hcheck
        · exact .stays hn
  | moveNode id position =>
      obtain ⟨result, hrun, _⟩ := run_bind_pure_eq_ok_iff.mp h
      rcases moveNode_eq_ok hrun with ⟨_, _, rfl⟩ | ⟨key, m, p, _, hget, _, _, rfl⟩
      · exact .stays hn
      · rcases mem_values_putNode hn with rfl | hn
        · exact .kept p (Table.mem_values_iff.mpr ⟨key, hget⟩)
        · exact .stays hn
  | moveNodeTo id position =>
      obtain ⟨result, hrun, _⟩ := run_bind_pure_eq_ok_iff.mp h
      rcases moveNodeTo_eq_ok hrun with ⟨_, _, rfl⟩ | ⟨key, m, _, hget, _, rfl⟩
      · exact .stays hn
      · rcases mem_values_putNode hn with rfl | hn
        · exact .kept position (Table.mem_values_iff.mpr ⟨key, hget⟩)
        · exact .stays hn
  | duplicateNode id =>
      obtain ⟨result, hrun, _⟩ := run_bind_pure_eq_ok_iff.mp h
      rcases duplicateNode_eq_ok hrun with ⟨_, _, rfl⟩ | ⟨key, m, copy, _, hget, rfl, _, rfl⟩
      · exact .stays hn
      · rcases mem_values_putNode hn with rfl | hn
        · exact .duplicated _ _ (Table.mem_values_iff.mpr ⟨key, hget⟩)
        · exact .stays hn
  | deleteNode id =>
      obtain ⟨found, hrun, _⟩ := run_bind_pure_eq_ok_iff.mp h
      rcases deleteNode_eq_ok hrun with ⟨_, _, rfl⟩ | ⟨key, _, _, _, rfl⟩
      · exact .stays hn
      · obtain ⟨other, hget⟩ := Table.mem_values_iff.mp hn
        exact .stays (Table.mem_values_iff.mpr ⟨other, (Table.get?_erase_eq_some_iff.mp hget).1⟩)
  | node id =>
      rw [(reads_query _ _).ok h] at hn
      exact .stays hn
  | addEdge source output target input id =>
      obtain ⟨e, hrun, _⟩ := run_bind_pure_eq_ok_iff.mp h
      obtain ⟨_, _, ⟨_, _, rfl⟩ | ⟨_, _, rfl⟩⟩ := addEdge_eq_ok hrun
      · exact .stays hn
      · exact .stays hn
  | updateEdge id changes =>
      obtain ⟨result, hrun, _⟩ := run_bind_pure_eq_ok_iff.mp h
      rcases updateEdge_eq_ok hrun with
        ⟨_, _, rfl⟩ | ⟨key, e, source, target, _, _, _, _, _, _, _, rfl⟩
      · exact .stays hn
      · exact .stays hn
  | deleteEdge id =>
      obtain ⟨found, hrun, _⟩ := run_bind_pure_eq_ok_iff.mp h
      rcases deleteEdge_eq_ok hrun with ⟨_, _, rfl⟩ | ⟨key, _, _, _, rfl⟩
      · exact .stays hn
      · exact .stays hn
  | edge id =>
      rw [(reads_query _ _).ok h] at hn
      exact .stays hn
  | select id =>
      cases h
      exact .stays hn
  | toggleHighlight id =>
      cases h
      exact .stays hn
  | clear =>
      cases h
      cases hn
  | importGraph items edges =>
      obtain ⟨u, hrun, _⟩ := run_bind_pure_eq_ok_iff.mp h
      obtain ⟨nodes, hread, hnodes⟩ := importGraph_nodes hrun
      obtain ⟨m, hm, rfl⟩ := List.mem_map.mp (hnodes ▸ hn)
      exact .given (.importGraph hread) hm
  | importValues nodes edges =>
      obtain ⟨u, hrun, _⟩ := run_bind_pure_eq_ok_iff.mp h
      obtain ⟨items, _, hparts, _, himport⟩ := importValues_eq_ok hrun
      obtain ⟨found, hread, hnodes⟩ := importGraph_nodes himport
      obtain ⟨m, hm, rfl⟩ := List.mem_map.mp (hnodes ▸ hn)
      exact .given (.importValues hparts hread) hm
  | openProject text =>
      obtain ⟨p, hrun, _⟩ := run_bind_pure_eq_ok_iff.mp h
      obtain ⟨hread, hopen⟩ := openProject_eq_ok hrun
      obtain ⟨m, hm, rfl⟩ := mem_values_of_openGraph hopen hn
      exact .given (.openProject hread) hm
  | openFile files file =>
      obtain ⟨p, hrun, _⟩ := run_bind_pure_eq_ok_iff.mp h
      obtain ⟨text, htext, hrun⟩ := run_orFail_bind_eq_ok_iff.mp hrun
      obtain ⟨hread, hopen⟩ := openProject_eq_ok hrun
      obtain ⟨m, hm, rfl⟩ := mem_values_of_openGraph hopen hn
      exact .given (.openFile htext hread) hm
  | connected id direction =>
      rw [(reads_query _ _).ok h] at hn
      exact .stays hn
  | dependencies id =>
      cases h
      exact .stays hn
  | validate =>
      obtain ⟨errors, hrun, _⟩ := run_bind_pure_eq_ok_iff.mp h
      obtain ⟨_, rfl⟩ := validate_eq_ok hrun
      exact .stays hn
  | generate =>
      obtain ⟨code, hrun, _⟩ := run_bind_pure_eq_ok_iff.mp h
      rw [(reads_generate r settings).ok hrun] at hn
      exact .stays hn

/-! ## What a call preserves -/

/-- Every node of the store has its fields. -/
def Store.HasFields (r : Registry) (s : Store) : Prop := ∀ n ∈ s.nodes.values, n.HasFields r

/-- A graph that the operation is given to take over has nodes with their fields only. -/
def Operation.GivesFields (r : Registry) (operation : Operation) : Prop :=
  ∀ nodes, operation.Given nodes → ∀ n ∈ nodes, n.HasFields r

theorem Registry.require_eq_ok_iff {name : String} {d : NodeDefinition} :
    r.require name = .ok d ↔ r.get? name = some d := by
  cases h : r.get? name <;> simp [require, h]

theorem Operation.Leaves.hasFields {n : Node} (h : operation.Leaves r w.store n)
    (hr : r.definitions.Keyed (·.name)) (hs : w.store.HasFields r)
    (hgiven : operation.GivesFields r) : n.HasFields r := by
  cases h with
  | kept position hn =>
      intro d hd
      exact hs _ hn d hd
  | @added name _ d id position hd =>
      intro d' hd'
      have hget := Registry.require_eq_ok_iff.mp hd
      -- the definition stands under its own name, so it is the one found for the node
      obtain rfl : d.name = name := hr name d hget
      obtain rfl : d = d' := Option.some.inj (hget.symm.trans hd')
      exact (Value.map_fst_copiedEntries _).trans d.map_fst_initialFields
  | duplicated id offset hn => exact hasFields_copied (hs _ hn)
  | updated hn hcheck => exact hasFields_updated (hs _ hn) hcheck
  | given hnodes hn => exact hasFields_copied (hgiven _ hnodes _ hn)

namespace Workspace

theorem hasFields_next {c : Call} (hr : c.registry.definitions.Keyed (·.name))
    (hs : w.store.HasFields c.registry) (hgiven : c.operation.GivesFields c.registry) :
    (w.next c).store.HasFields c.registry := by
  unfold next
  cases hrun : c.run w with
  | ok allocated w' =>
      intro n hn
      exact (Operation.leaves_of_ok hrun n hn).hasFields hr hs hgiven
  | error f w' =>
      show w'.store.HasFields c.registry
      rw [(c.operation.allOrNothing c.registry c.settings).error hrun]
      exact hs

theorem hasFields_after {calls : List Call} (hr : r.definitions.Keyed (·.name))
    (hregistry : ∀ c ∈ calls, c.registry = r) (hs : w.store.HasFields r)
    (hgiven : ∀ c ∈ calls, c.operation.GivesFields r) : (w.after calls).store.HasFields r := by
  induction calls generalizing w with
  | nil => exact hs
  | cons c calls ih =>
      obtain ⟨hfirst, hregistry⟩ := List.forall_mem_cons.mp hregistry
      obtain ⟨hgives, hgiven⟩ := List.forall_mem_cons.mp hgiven
      subst hfirst
      exact ih hregistry (hasFields_next hr hs hgives) hgiven

/-- With a registry that no call changes, and graphs whose nodes have their fields: after every run
from an empty store, whatever its calls are and whichever of them fail, each node of a known type
has exactly the fields that the definition declares, in the order of the definition. -/
theorem fields_after (history : List Registry.Change) (ids : Ids) (calls : List Call)
    (hregistry : ∀ c ∈ calls, c.registry = Registry.empty.after history)
    (hgiven : ∀ c ∈ calls, c.operation.GivesFields (Registry.empty.after history)) :
    ∀ n ∈ ((start ids).after calls).store.graph.nodes, ∀ d,
      (Registry.empty.after history).get? n.type = some d →
        n.fields.map Prod.fst = d.fields.keys.map .text := by
  have hkeyed := (Registry.inStep_after history Registry.inStep_empty).keyed
  have hempty : (start ids).store.HasFields (Registry.empty.after history) := by
    intro n hn
    cases hn
  exact hasFields_after hkeyed hregistry hempty hgiven

end Workspace

/-- A definition of two fields. -/
def pairText : String :=
  "name: Pair\ncategory: C\ndescription: D\nfields:\n  right: \x7btype: text, label: R\x7d\n" ++
    "  left: \x7btype: text, label: L\x7d\npins:\ntemplate: t\n"

def pairHistory : List Registry.Change := [.load Hook.builtin pairText]

/-- A pair that does not come from the registry. -/
def givenPair : Node :=
  ⟨"given", "Pair", .origin, [(.text "right", .int 1), (.text "left", .int 2)]⟩

/-- Pairs that are taken over, added, updated and copied. The first update fails, as one of its keys
is not declared. -/
def pairCalls : List Call :=
  [.importGraph [.good givenPair] [], .addNode (.text "Pair") .null,
    .updateNode (.text "given") [(.text "left", .null), (.text "middle", .null)],
    .updateNode (.text "given") [(.text "left", .null)], .duplicateNode (.text "given")].map
      fun operation => ⟨Registry.empty.after pairHistory, default, operation⟩

/-- The definition is read once for both. -/
theorem pairHistory_read :
    ((Registry.empty.after pairHistory).get? "Pair").map (·.fields.keys) = some ["right", "left"] ∧
      ((Workspace.start ⟨[], 1⟩).after pairCalls).store.graph.nodes.length = 3 := by
  decide +kernel

theorem pairCalls_keep_fields :
    (∀ c ∈ pairCalls, c.registry = Registry.empty.after pairHistory) ∧
      (∀ c ∈ pairCalls, c.operation.GivesFields (Registry.empty.after pairHistory)) ∧
      ((Workspace.start ⟨[], 1⟩).after pairCalls).store.graph.nodes.length = 3 ∧
      ∀ n ∈ ((Workspace.start ⟨[], 1⟩).after pairCalls).store.graph.nodes, ∀ d,
        (Registry.empty.after pairHistory).get? n.type = some d →
          n.fields.map Prod.fst = d.fields.keys.map .text := by
  have hregistry : ∀ c ∈ pairCalls, c.registry = Registry.empty.after pairHistory := by
    simp [pairCalls]
  obtain ⟨hkeys, hlength⟩ := pairHistory_read
  have hpair : givenPair.HasFields (Registry.empty.after pairHistory) := by
    intro d hd
    obtain ⟨d', hd', hfields⟩ := Option.map_eq_some_iff.mp hkeys
    obtain rfl := Option.some.inj (hd.symm.trans hd')
    rw [hfields]
    rfl
  have hgiven : ∀ c ∈ pairCalls, c.operation.GivesFields (Registry.empty.after pairHistory) := by
    intro c hc nodes hnodes
    simp only [pairCalls, List.map_cons, List.map_nil, List.mem_cons, List.not_mem_nil,
      or_false] at hc
    rcases hc with rfl | rfl | rfl | rfl | rfl
    · cases hnodes with
      | importGraph hread =>
          have hnodes : [givenPair] = nodes :=
            List.map_injective_iff.mpr (fun _ _ => Checked.good.inj) hread
          simp [← hnodes, hpair]
    all_goals cases hnodes
  exact ⟨hregistry, hgiven, hlength, Workspace.fields_after _ _ _ hregistry hgiven⟩

end NodeGraph
