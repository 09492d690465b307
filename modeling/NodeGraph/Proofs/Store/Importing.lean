import NodeGraph.Proofs.Store.Results
import NodeGraph.Proofs.Value.Copies

/-!
# Taking over a graph

The nodes are looked at one after the other, then the edges, and the first item that cannot be taken
over stops the whole: one that could not be read, one whose id an earlier item has, an edge that
does not end at nodes. So a graph is taken over exactly if it is sound, and the store then holds
this graph, with copies of its nodes, and nothing else.

Both loops put items into a table under their ids. `Collects` is what such a loop does at one item;
what it comes to follows from that for both.
-/

namespace NodeGraph

/-- No two nodes and no two edges have the same id, and edges end at nodes. -/
structure Graph.Sound (g : Graph) : Prop where
  nodup_ids : g.ids.Nodup
  nodup_edge_ids : (g.edges.map (·.id)).Nodup
  ends : ∀ e ∈ g.edges, e.source ∈ g.ids ∧ e.target ∈ g.ids

/-- A graph as a store takes it over: the nodes are copied. -/
def Graph.taken (g : Graph) : Graph := { g with nodes := g.nodes.map Node.copied }

theorem map_id_copied (nodes : List Node) :
    (nodes.map Node.copied).map (·.id) = nodes.map (·.id) := by
  rw [List.map_map]
  rfl

@[simp] theorem Graph.ids_taken (g : Graph) : g.taken.ids = g.ids := map_id_copied g.nodes

theorem Graph.reordered_taken (g : Graph) : g.Reordered g.taken where
  nodes := g.reordered_copied.nodes
  edges := List.forall₂_same.mpr fun e _ => e.reordered_refl

/-- Whether a graph is sound is seen at the ids of its nodes and the ids and ends of its edges. -/
theorem Graph.sound_of_shape {g g' : Graph} (hids : g'.ids = g.ids)
    (hwires : g'.edges.map (fun e => (e.id, e.source, e.target)) =
      g.edges.map fun e => (e.id, e.source, e.target)) (h : g.Sound) : g'.Sound where
  nodup_ids := hids ▸ h.nodup_ids
  nodup_edge_ids := by
    have hedgeIds : g'.edges.map (·.id) = g.edges.map (·.id) := by
      have hfirst := congrArg (List.map Prod.fst) hwires
      rwa [List.map_map, List.map_map] at hfirst
    exact hedgeIds ▸ h.nodup_edge_ids
  ends e he := by
    have hwire := List.mem_map_of_mem (f := fun e : Edge => (e.id, e.source, e.target)) he
    rw [hwires] at hwire
    obtain ⟨e', he', hsame⟩ := List.mem_map.mp hwire
    simp only [Prod.mk.injEq] at hsame
    rw [hids, ← hsame.2.1, ← hsame.2.2]
    exact h.ends e' he'

theorem Graph.Reordered.sound_iff {g g' : Graph} (h : g.Reordered g') : g'.Sound ↔ g.Sound :=
  ⟨Graph.sound_of_shape h.shape_eq.1.symm h.shape_eq.2.symm,
    Graph.sound_of_shape h.shape_eq.1 h.shape_eq.2⟩

theorem Graph.sound_taken_iff {g : Graph} : g.taken.Sound ↔ g.Sound := g.reordered_taken.sound_iff

namespace Store

open Edit

/-! ## Collecting under ids -/

section Collecting

variable {α : Type} {id : α → String} {kept : α → α} {fits : α → Prop}
  {refuses : List String → α → Fault → Prop}
  {collect : Table α → List (Checked α) → Except Fault (Table α)} {done found : Table α}
  {ids : List String} {item : Checked α} {items rest : List (Checked α)} {xs : List α} {a : α}
  {fault : Fault}

/-- An item that ends a loop behind items with the given ids: it could not be read, or is refused. -/
inductive Stops (refuses : List String → α → Fault → Prop) (ids : List String) :
    Checked α → Fault → Prop where
  | unreadable {item : Checked α} {fault : Fault} (h : item.orFault = .error fault) :
      Stops refuses ids item fault
  | refused {a : α} {fault : Fault} (h : refuses ids a fault) : Stops refuses ids (.good a) fault

/-- A loop that puts what is kept of items into a table under their ids. Of what fits it is put if
the id is new, and any other item ends the loop with a fault. -/
structure Collects (id : α → String) (kept : α → α) (fits : α → Prop)
    (refuses : List String → α → Fault → Prop)
    (collect : Table α → List (Checked α) → Except Fault (Table α)) : Prop where
  nil : ∀ done, collect done [] = .ok done
  put : ∀ {done a rest}, id a ∉ done.keys → fits a →
    collect done (.good a :: rest) = collect (done.insert (id a) (kept a)) rest
  stops : ∀ {done item rest fault}, Stops refuses done.keys item fault →
    collect done (item :: rest) = .error fault
  put_or_refused : ∀ ids a, (id a ∉ ids ∧ fits a) ∨ ∃ fault, refuses ids a fault

namespace Collects

/-- Items with new ids of their own that fit are put behind what is there, and the loop goes on. -/
theorem exists_put (h : Collects id kept fits refuses collect)
    (hnodup : (done.keys ++ xs.map id).Nodup) (hfits : ∀ x ∈ xs, fits x) :
    ∃ more : Table α, more.keys = done.keys ++ xs.map id ∧
      more.entries = done.entries ++ (xs.map fun x => (id x, kept x)) ∧
      ∀ rest, collect done (xs.map .good ++ rest) = collect more rest := by
  induction xs generalizing done with
  | nil => exact ⟨done, by simp, by simp, fun _ => rfl⟩
  | cons x xs ih =>
      have hnew : id x ∉ done.keys := fun hmem =>
        (List.nodup_append.mp hnodup).2.2 _ hmem _ List.mem_cons_self rfl
      obtain ⟨hx, hxs⟩ := List.forall_mem_cons.mp hfits
      have hkeys : (done.insert (id x) (kept x)).keys = done.keys ++ [id x] :=
        Table.keys_insert_of_notMem hnew
      have hmore : ((done.insert (id x) (kept x)).keys ++ xs.map id).Nodup := by
        simpa [hkeys] using hnodup
      obtain ⟨more, hmoreKeys, hmoreEntries, hrun⟩ := ih hmore hxs
      refine ⟨more, by simpa [hkeys] using hmoreKeys, ?_, ?_⟩
      · simpa [Table.entries_insert_of_notMem hnew] using hmoreEntries
      · intro rest
        rw [List.map_cons, List.cons_append, h.put hnew hx, hrun]

/-- Either all items can be put, or there is a first one that ends the loop. -/
theorem all_put_or_stops (h : Collects id kept fits refuses collect) (hids : ids.Nodup)
    (items : List (Checked α)) :
    (∃ xs : List α, items = xs.map .good ∧ (ids ++ xs.map id).Nodup ∧ ∀ x ∈ xs, fits x) ∨
    ∃ (before : List α) (item : Checked α) (after : List (Checked α)) (fault : Fault),
      items = before.map .good ++ item :: after ∧ (ids ++ before.map id).Nodup ∧
      (∀ x ∈ before, fits x) ∧ Stops refuses (ids ++ before.map id) item fault := by
  induction items generalizing ids with
  | nil => exact .inl ⟨[], rfl, by simpa using hids, by simp⟩
  | cons item rest ih =>
      by_cases hstops : ∃ fault, Stops refuses ids item fault
      · obtain ⟨fault, hstops⟩ := hstops
        exact .inr ⟨[], item, rest, fault, rfl, by simpa using hids, by simp, by simpa using hstops⟩
      · cases item with
        | bad issues => exact absurd ⟨_, .unreadable rfl⟩ hstops
        | overflow => exact absurd ⟨_, .unreadable rfl⟩ hstops
        | good a =>
            obtain ⟨hnew, ha⟩ := (h.put_or_refused ids a).resolve_right
              fun ⟨fault, hrefuses⟩ => hstops ⟨fault, .refused hrefuses⟩
            have hmore : (ids ++ [id a]).Nodup := by
              rw [← List.concat_eq_append]
              exact hids.concat hnew
            rcases ih hmore with ⟨xs, rfl, hnodup, hfits⟩ |
              ⟨before, item, after, fault, rfl, hnodup, hfits, hstops⟩
            · exact .inl ⟨a :: xs, rfl, by simpa using hnodup,
                List.forall_mem_cons.mpr ⟨ha, hfits⟩⟩
            · exact .inr ⟨a :: before, item, after, fault, rfl, by simpa using hnodup,
                List.forall_mem_cons.mpr ⟨ha, hfits⟩, by simpa using hstops⟩

/-- The loop ends well if all items could be read, have new ids of their own and fit. What is kept
of them then stands behind what was there before. -/
theorem eq_ok_iff (h : Collects id kept fits refuses collect) :
    collect done items = .ok found ↔ ∃ xs : List α, items = xs.map .good ∧
      (done.keys ++ xs.map id).Nodup ∧ (∀ x ∈ xs, fits x) ∧
      found.entries = done.entries ++ xs.map fun x => (id x, kept x) := by
  constructor
  · intro hok
    rcases h.all_put_or_stops done.keys_nodup items with ⟨xs, rfl, hnodup, hfits⟩ |
      ⟨before, item, after, fault, rfl, hnodup, hfits, hstops⟩
    · obtain ⟨more, _, hentries, hrun⟩ := h.exists_put hnodup hfits
      have hend := hrun []
      rw [List.append_nil, hok, h.nil] at hend
      obtain rfl := Except.ok.inj hend
      exact ⟨xs, rfl, hnodup, hfits, hentries⟩
    · obtain ⟨more, hkeys, _, hrun⟩ := h.exists_put hnodup hfits
      rw [hrun, h.stops (hkeys ▸ hstops)] at hok
      cases hok
  · rintro ⟨xs, rfl, hnodup, hfits, hfound⟩
    obtain ⟨more, _, hentries, hrun⟩ := h.exists_put hnodup hfits
    have hend := hrun []
    rw [List.append_nil, h.nil] at hend
    rw [hend, Table.eq_of_entries (hfound.trans hentries.symm)]

/-- The loop fails at the first item that could not be read or is refused, behind items that were
put. -/
theorem eq_error_iff (h : Collects id kept fits refuses collect) :
    collect done items = .error fault ↔ ∃ (before : List α) (item : Checked α)
      (after : List (Checked α)), items = before.map .good ++ item :: after ∧
      (done.keys ++ before.map id).Nodup ∧ (∀ x ∈ before, fits x) ∧
      Stops refuses (done.keys ++ before.map id) item fault := by
  constructor
  · intro hfails
    rcases h.all_put_or_stops done.keys_nodup items with ⟨xs, rfl, hnodup, hfits⟩ |
      ⟨before, item, after, fault', rfl, hnodup, hfits, hstops⟩
    · obtain ⟨more, _, _, hrun⟩ := h.exists_put hnodup hfits
      have hend := hrun []
      rw [List.append_nil, hfails, h.nil] at hend
      cases hend
    · obtain ⟨more, hkeys, _, hrun⟩ := h.exists_put hnodup hfits
      rw [hrun, h.stops (hkeys ▸ hstops)] at hfails
      obtain rfl := Except.error.inj hfails
      exact ⟨before, item, after, rfl, hnodup, hfits, hstops⟩
  · rintro ⟨before, item, after, rfl, hnodup, hfits, hstops⟩
    obtain ⟨more, hkeys, _, hrun⟩ := h.exists_put hnodup hfits
    rw [hrun, h.stops (hkeys ▸ hstops)]

end Collects

end Collecting

/-! ## Nodes and edges -/

/-- A node is refused if an earlier one has its id. -/
def RefusesNode (ids : List String) (n : Node) (fault : Fault) : Prop :=
  n.id ∈ ids ∧ fault = .duplicateNode n.id

/-- An edge is refused if an earlier one has its id, and else if an end of it is not among the
nodes. -/
inductive RefusesEdge (nodes ids : List String) (e : Edge) : Fault → Prop where
  | repeated (h : e.id ∈ ids) : RefusesEdge nodes ids e (.duplicateEdge e.id)
  | missing (hnew : e.id ∉ ids) (h : ¬ (e.source ∈ nodes ∧ e.target ∈ nodes)) :
      RefusesEdge nodes ids e (.missingEnds e.id ([e.source, e.target].filter (· ∉ nodes)))

theorem collectNodes_good {done : Table Node} {n : Node} {rest : List (Checked Node)} :
    collectNodes done (.good n :: rest) =
      if n.id ∈ done.keys then .error (.duplicateNode n.id)
      else collectNodes (done.insert n.id n.copied) rest := by
  show (if done.contains n.id then _ else _) = _
  simp only [Table.contains_iff]
  rfl

theorem collectEdges_good {nodes : Table Node} {done : Table Edge} {e : Edge}
    {rest : List (Checked Edge)} :
    collectEdges nodes done (.good e :: rest) =
      if e.id ∈ done.keys then .error (.duplicateEdge e.id)
      else if e.source ∈ nodes.keys ∧ e.target ∈ nodes.keys then
        collectEdges nodes (done.insert e.id e) rest
      else .error (.missingEnds e.id ([e.source, e.target].filter (· ∉ nodes.keys))) := by
  have hmissing : [e.source, e.target].filter (!nodes.contains ·) =
      [e.source, e.target].filter (· ∉ nodes.keys) := by
    simp [Table.contains]
  simp only [collectEdges, Checked.orFault, bind, Except.bind, throw, throwThe,
    MonadExceptOf.throw, Table.contains_iff, hmissing]
  split
  · rfl
  · split
    · rename_i hnone
      have hends : e.source ∈ nodes.keys ∧ e.target ∈ nodes.keys := by
        simpa [List.filter_eq_nil_iff] using hnone
      rw [if_pos hends]
    · rename_i hsome
      have hends : ¬ (e.source ∈ nodes.keys ∧ e.target ∈ nodes.keys) := by
        simpa [List.filter_eq_nil_iff] using hsome
      rw [if_neg hends]

theorem collects_nodes :
    Collects (·.id) Node.copied (fun _ => True) RefusesNode collectNodes where
  nil _ := rfl
  put hnew _ := by rw [collectNodes_good, if_neg hnew]
  stops hstops := by
    cases hstops with
    | unreadable h =>
        rw [collectNodes, h]
        rfl
    | refused h =>
        obtain ⟨hmem, rfl⟩ := h
        rw [collectNodes_good, if_pos hmem]
  put_or_refused ids n := by
    by_cases hmem : n.id ∈ ids
    · exact .inr ⟨_, hmem, rfl⟩
    · exact .inl ⟨hmem, trivial⟩

theorem collects_edges (nodes : Table Node) :
    Collects (·.id) (fun e => e) (fun e => e.source ∈ nodes.keys ∧ e.target ∈ nodes.keys)
      (RefusesEdge nodes.keys) (collectEdges nodes) where
  nil _ := rfl
  put hnew hends := by rw [collectEdges_good, if_neg hnew, if_pos hends]
  stops hstops := by
    cases hstops with
    | unreadable h =>
        rw [collectEdges, h]
        rfl
    | refused h =>
        cases h with
        | repeated hmem => rw [collectEdges_good, if_pos hmem]
        | missing hnew hends => rw [collectEdges_good, if_neg hnew, if_neg hends]
  put_or_refused ids e := by
    by_cases hmem : e.id ∈ ids
    · exact .inr ⟨_, .repeated hmem⟩
    · by_cases hends : e.source ∈ nodes.keys ∧ e.target ∈ nodes.keys
      · exact .inl ⟨hmem, hends⟩
      · exact .inr ⟨_, .missing hmem hends⟩

/-! ## Whole graphs -/

section

variable {w w' : Workspace} {g : Graph} {nodes : List (Checked Node)} {edges : List (Checked Edge)}
  {found : Table Node} {wires : Table Edge} {fault : Fault} {wording : Option String}

/-- The store that holds a sound graph, in its order, and nothing else. -/
def ofGraph (g : Graph) (h : g.Sound) : Store where
  nodes := .under (·.id) g.nodes h.nodup_ids
  edges := .under (·.id) g.edges h.nodup_edge_ids
  selected := .null
  highlighted := []
  errors := []

theorem graph_ofGraph (h : g.Sound) : (ofGraph g h).graph = g :=
  congrArg₂ Graph.mk (Table.values_under _ _ h.nodup_ids) (Table.values_under _ _ h.nodup_edge_ids)

theorem keys_ofGraph (h : g.Sound) : (ofGraph g h).nodes.keys = g.ids :=
  Table.keys_under _ _ h.nodup_ids

/-- The fault, with its wording, for the first item that cannot be taken over. All nodes come before
all edges. -/
inductive Refusal (nodes : List (Checked Node)) (edges : List (Checked Edge)) :
    Fault → Option String → Prop where
  | unreadableNode {before : List Node} {item : Checked Node} {after : List (Checked Node)}
      {fault : Fault} (hnodes : nodes = before.map .good ++ item :: after)
      (hbefore : (before.map (·.id)).Nodup) (hitem : item.orFault = .error fault) :
      Refusal nodes edges fault none
  | repeatedNode {before : List Node} {n : Node} {after : List (Checked Node)}
      (hnodes : nodes = before.map .good ++ .good n :: after)
      (hbefore : (before.map (·.id)).Nodup) (hid : n.id ∈ before.map (·.id)) :
      Refusal nodes edges (.duplicateNode n.id) (some ("Duplicate node id '" ++ n.id ++ "'"))
  | unreadableEdge {g : Graph} {item : Checked Edge} {after : List (Checked Edge)} {fault : Fault}
      (hnodes : nodes = g.nodes.map .good) (hedges : edges = g.edges.map .good ++ item :: after)
      (hbefore : g.Sound) (hitem : item.orFault = .error fault) : Refusal nodes edges fault none
  | repeatedEdge {g : Graph} {e : Edge} {after : List (Checked Edge)}
      (hnodes : nodes = g.nodes.map .good) (hedges : edges = g.edges.map .good ++ .good e :: after)
      (hbefore : g.Sound) (hid : e.id ∈ g.edges.map (·.id)) :
      Refusal nodes edges (.duplicateEdge e.id) (some ("Duplicate edge id '" ++ e.id ++ "'"))
  | missingEnds {g : Graph} {e : Edge} {after : List (Checked Edge)}
      (hnodes : nodes = g.nodes.map .good) (hedges : edges = g.edges.map .good ++ .good e :: after)
      (hbefore : g.Sound) (hid : e.id ∉ g.edges.map (·.id))
      (hends : ¬ (e.source ∈ g.ids ∧ e.target ∈ g.ids)) :
      Refusal nodes edges (.missingEnds e.id ([e.source, e.target].filter (· ∉ g.ids)))
        (some ("Edge '" ++ e.id ++ "' references missing node(s): " ++
          ", ".intercalate ([e.source, e.target].filter (· ∉ g.ids))))

/-- Copies of nodes under their ids. -/
def copiesOf (ns : List Node) (h : (ns.map (·.id)).Nodup) : Table Node :=
  .under (·.id) (ns.map Node.copied) ((map_id_copied ns).symm ▸ h)

theorem keys_copiesOf {ns : List Node} (h : (ns.map (·.id)).Nodup) :
    (copiesOf ns h).keys = ns.map (·.id) :=
  (Table.keys_under _ _ _).trans (map_id_copied ns)

theorem entries_copiesOf {ns : List Node} (h : (ns.map (·.id)).Nodup) :
    (copiesOf ns h).entries = ns.map fun n => (n.id, n.copied) :=
  List.map_map

theorem collectNodes_eq_ok_iff :
    collectNodes .empty nodes = .ok found ↔ ∃ (ns : List Node) (h : (ns.map (·.id)).Nodup),
      nodes = ns.map .good ∧ found = copiesOf ns h := by
  rw [collects_nodes.eq_ok_iff]
  constructor
  · rintro ⟨ns, rfl, hids, _, hfound⟩
    exact ⟨ns, hids, rfl, Table.eq_of_entries (hfound.trans (entries_copiesOf hids).symm)⟩
  · rintro ⟨ns, hids, rfl, rfl⟩
    exact ⟨ns, rfl, hids, fun _ _ => trivial, entries_copiesOf hids⟩

theorem collectEdges_eq_ok_iff {ns : List Node} (hids : (ns.map (·.id)).Nodup) :
    collectEdges (copiesOf ns hids) .empty edges = .ok wires ↔
      ∃ (es : List Edge) (h : (⟨ns, es⟩ : Graph).Sound), edges = es.map .good ∧
        wires = .under (·.id) es h.nodup_edge_ids := by
  rw [(collects_edges _).eq_ok_iff, keys_copiesOf]
  constructor
  · rintro ⟨es, rfl, hnodup, hends, hentries⟩
    exact ⟨es, ⟨hids, hnodup, hends⟩, rfl, Table.eq_of_entries hentries⟩
  · rintro ⟨es, h, rfl, rfl⟩
    exact ⟨es, rfl, h.nodup_edge_ids, h.ends, rfl⟩

theorem collectNodes_eq_error_iff :
    collectNodes .empty nodes = .error fault ↔ ∃ (ns : List Node) (item : Checked Node)
      (after : List (Checked Node)), nodes = ns.map .good ++ item :: after ∧
      (ns.map (·.id)).Nodup ∧ Stops RefusesNode (ns.map (·.id)) item fault := by
  rw [collects_nodes.eq_error_iff]
  constructor
  · rintro ⟨ns, item, after, hnodes, hids, _, hstops⟩
    exact ⟨ns, item, after, hnodes, hids, hstops⟩
  · rintro ⟨ns, item, after, hnodes, hids, hstops⟩
    exact ⟨ns, item, after, hnodes, hids, fun _ _ => trivial, hstops⟩

theorem collectEdges_eq_error_iff {ns : List Node} (hids : (ns.map (·.id)).Nodup) :
    collectEdges (copiesOf ns hids) .empty edges = .error fault ↔
      ∃ (es : List Edge) (item : Checked Edge) (after : List (Checked Edge)),
        edges = es.map .good ++ item :: after ∧ (⟨ns, es⟩ : Graph).Sound ∧
        Stops (RefusesEdge (ns.map (·.id))) (es.map (·.id)) item fault := by
  rw [(collects_edges _).eq_error_iff, keys_copiesOf]
  constructor
  · rintro ⟨es, item, after, hedges, hnodup, hends, hstops⟩
    exact ⟨es, item, after, hedges, ⟨hids, hnodup, hends⟩, hstops⟩
  · rintro ⟨es, item, after, hedges, h, hstops⟩
    exact ⟨es, item, after, hedges, h.nodup_edge_ids, h.ends, hstops⟩

/-- A graph is taken over exactly if all of it could be read and is sound. The store then holds this
graph, whatever was there before. -/
theorem importGraph_eq_ok_iff :
    (importGraph nodes edges).run w = .ok () w' ↔ ∃ (g : Graph) (h : g.Sound),
      nodes = g.nodes.map .good ∧ edges = g.edges.map .good ∧
        w' = ⟨ofGraph g.taken (Graph.sound_taken_iff.mpr h), w.ids⟩ := by
  simp only [importGraph, run_orFail_bind_eq_ok_iff, run_setStore, collectNodes_eq_ok_iff]
  constructor
  · rintro ⟨_, ⟨ns, hids, rfl, rfl⟩, _, hwires, hrun⟩
    obtain ⟨es, hsound, rfl, rfl⟩ := (collectEdges_eq_ok_iff hids).mp hwires
    cases hrun
    exact ⟨⟨ns, es⟩, hsound, rfl, rfl, rfl⟩
  · rintro ⟨g, hsound, rfl, rfl, rfl⟩
    exact ⟨_, ⟨g.nodes, hsound.nodup_ids, rfl, rfl⟩, _,
      (collectEdges_eq_ok_iff hsound.nodup_ids).mpr ⟨g.edges, hsound, rfl, rfl⟩, rfl⟩

theorem importGraph_fails_iff :
    (importGraph nodes edges).run w = .error fault w' ↔ w' = w ∧
      (collectNodes .empty nodes = .error fault ∨ ∃ found, collectNodes .empty nodes = .ok found ∧
        collectEdges found .empty edges = .error fault) := by
  rw [importGraph, run_bind_eq_error_iff, run_orFail_eq_error_iff]
  constructor
  · rintro (⟨hnodes, rfl⟩ | ⟨found, w₁, hfound, hrun⟩)
    · exact ⟨rfl, .inl hnodes⟩
    · obtain ⟨hnodes, rfl⟩ := run_orFail_eq_ok_iff.mp hfound
      rcases run_bind_eq_error_iff.mp hrun with hedges | ⟨wires, w₂, _, hrun⟩
      · obtain ⟨hfails, rfl⟩ := run_orFail_eq_error_iff.mp hedges
        exact ⟨rfl, .inr ⟨found, hnodes, hfails⟩⟩
      · cases hrun
  · rintro ⟨rfl, hnodes | ⟨found, hfound, hedges⟩⟩
    · exact .inl ⟨hnodes, rfl⟩
    · exact .inr ⟨found, w', run_orFail_eq_ok_iff.mpr ⟨hfound, rfl⟩, run_bind_eq_error_iff.mpr
        (.inl (run_orFail_eq_error_iff.mpr ⟨hedges, rfl⟩))⟩

/-- What could not be read has no wording. -/
theorem message?_of_orFault {α : Type} {item : Checked α} (h : item.orFault = .error fault) :
    fault.message? = none := by
  cases item with
  | good a => cases h
  | bad issues => cases h; rfl
  | overflow => cases h; rfl

theorem refusal_of_fails (h : collectNodes .empty nodes = .error fault ∨
    ∃ found, collectNodes .empty nodes = .ok found ∧
      collectEdges found .empty edges = .error fault) :
    Refusal nodes edges fault fault.message? := by
  rcases h with hnodes | ⟨found, hfound, hedges⟩
  · obtain ⟨before, item, after, rfl, hbefore, hstops⟩ := collectNodes_eq_error_iff.mp hnodes
    cases hstops with
    | unreadable hitem =>
        rw [message?_of_orFault hitem]
        exact .unreadableNode rfl hbefore hitem
    | refused hrefuses =>
        obtain ⟨hid, rfl⟩ := hrefuses
        exact .repeatedNode rfl hbefore hid
  · obtain ⟨ns, hids, rfl, rfl⟩ := collectNodes_eq_ok_iff.mp hfound
    obtain ⟨es, item, after, rfl, hsound, hstops⟩ := (collectEdges_eq_error_iff hids).mp hedges
    cases hstops with
    | unreadable hitem =>
        rw [message?_of_orFault hitem]
        exact .unreadableEdge rfl rfl hsound hitem
    | refused hrefuses =>
        cases hrefuses with
        | repeated hid => exact .repeatedEdge rfl rfl hsound hid
        | missing hid hends => exact .missingEnds rfl rfl hsound hid hends

theorem fails_of_refusal (h : Refusal nodes edges fault wording) :
    wording = fault.message? ∧ (collectNodes .empty nodes = .error fault ∨
      ∃ found, collectNodes .empty nodes = .ok found ∧
        collectEdges found .empty edges = .error fault) := by
  -- behind a sound graph, an edge that stops the loop is what the fault comes from
  have hedge : ∀ {g : Graph} {item after}, nodes = g.nodes.map .good →
      edges = g.edges.map .good ++ item :: after → g.Sound →
      Stops (RefusesEdge g.ids) (g.edges.map (·.id)) item fault →
      ∃ found, collectNodes .empty nodes = .ok found ∧
        collectEdges found .empty edges = .error fault :=
    fun {g item after} hnodes hedges hsound hstops =>
      ⟨_, collectNodes_eq_ok_iff.mpr ⟨g.nodes, hsound.nodup_ids, hnodes, rfl⟩,
        (collectEdges_eq_error_iff hsound.nodup_ids).mpr
          ⟨g.edges, item, after, hedges, hsound, hstops⟩⟩
  cases h with
  | unreadableNode hnodes hbefore hitem =>
      exact ⟨(message?_of_orFault hitem).symm,
        .inl (collectNodes_eq_error_iff.mpr ⟨_, _, _, hnodes, hbefore, .unreadable hitem⟩)⟩
  | repeatedNode hnodes hbefore hid =>
      exact ⟨rfl, .inl (collectNodes_eq_error_iff.mpr
        ⟨_, _, _, hnodes, hbefore, .refused ⟨hid, rfl⟩⟩)⟩
  | unreadableEdge hnodes hedges hbefore hitem =>
      exact ⟨(message?_of_orFault hitem).symm,
        .inr (hedge hnodes hedges hbefore (.unreadable hitem))⟩
  | repeatedEdge hnodes hedges hbefore hid =>
      exact ⟨rfl, .inr (hedge hnodes hedges hbefore (.refused (.repeated hid)))⟩
  | missingEnds hnodes hedges hbefore hid hends =>
      exact ⟨rfl, .inr (hedge hnodes hedges hbefore (.refused (.missing hid hends)))⟩

/-- A graph is not taken over because of its first item that cannot be, and then nothing changes. -/
theorem importGraph_eq_error_iff :
    (importGraph nodes edges).run w = .error fault w' ↔
      Refusal nodes edges fault fault.message? ∧ w' = w := by
  rw [importGraph_fails_iff, and_comm, and_congr_left_iff]
  exact fun _ => ⟨refusal_of_fails, fun h => (fails_of_refusal h).2⟩

end

/-- Of all lists of nodes and edges, given as such or as values to be read, a workspace takes over
those that could all be read and form a sound graph. It then holds this graph in its order, with
copies of its nodes, and nothing else, whatever it held before. The copies differ from the nodes at
most in the order in which sets list their members. Otherwise the workspace stays as it is, and the
fault is that of the first item that cannot be taken over: nodes before edges, an edge's id before
its ends. -/
theorem import_exact (w : Workspace) (nodes : List (Checked Node)) (edges : List (Checked Edge)) :
    (∀ w', (importGraph nodes edges).run w = .ok () w' ↔ ∃ (g : Graph) (h : g.Sound),
      nodes = g.nodes.map .good ∧ edges = g.edges.map .good ∧
        w' = ⟨ofGraph g.taken (Graph.sound_taken_iff.mpr h), w.ids⟩) ∧
    (∀ fault w', (importGraph nodes edges).run w = .error fault w' ↔
      Refusal nodes edges fault fault.message? ∧ w' = w) ∧
    (∀ nodeValues edgeValues, importValues (.list nodeValues) (.list edgeValues) =
      importGraph (nodeValues.map Node.decode) (edgeValues.map Edge.decode)) ∧
    ∀ g : Graph, g.Reordered g.taken :=
  ⟨fun _ => importGraph_eq_ok_iff, fun _ _ => importGraph_eq_error_iff, fun _ _ => rfl,
    Graph.reordered_taken⟩

end Store

end NodeGraph
