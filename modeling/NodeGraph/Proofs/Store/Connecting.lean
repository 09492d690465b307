import NodeGraph.Proofs.Store.Saving

/-!
# Connecting nodes

Adding an edge only adds it, and redirecting one only changes it where it stands. Two gaps are left
by how the arguments are checked. The id for a new edge is compared as it is given, but the edge is
stored under the text that is read from it: an id in bytes takes the place of the edge with this
text. And the pins of a new edge are read as texts, while an edge is redirected to pins that nobody
looks at.
-/

namespace NodeGraph

open Edit Store

namespace Store

variable {w w' : Workspace} {source output target input id : Value} {key : String} {e : Edge}

/-- The value is a text or the bytes of one. -/
def ReadsAsText (v : Value) : Prop := ∃ s, Schema.text v = .good s

/-! ## Adding -/

/-- The last step of adding: the edge is read from its parts and put. -/
def putRead (s : Store) (source output target input id : Value) : Edit Edge := do
  let edge ← orFail (Edge.decode (.map [(.text "id", id), (.text "source", source),
    (.text "source_output", output), (.text "target", target),
    (.text "target_input", input)])).orFault
  setStore (s.putEdge edge)
  return edge

theorem keyOf_of_isKey (h : id.isKey = true) :
    (∃ key, id = .text key ∧ keyOf id = .ok (some key)) ∨ keyOf id = .ok none := by
  unfold keyOf
  split
  · exact .inl ⟨_, rfl, rfl⟩
  · exact .inr (if_pos h)

/-- With nodes at its ends and an id that can be looked up and is not found, adding gets to its last
step. -/
theorem run_addEdge_of_unused {a b : String} (ha : a ∈ w.store.nodes.keys)
    (hb : b ∈ w.store.nodes.keys) (hkey : id.isKey = true)
    (hunused : ∀ key, id = .text key → key ∉ w.store.edges.keys) :
    (addEdge (.text a) output (.text b) input id).run w =
      (wantedId id >>= putRead w.store (.text a) output (.text b) input).run w := by
  have hsource : w.store.requireNode (.text a) = .ok a := requireNode_eq_ok_iff.mpr ⟨rfl, ha⟩
  have htarget : w.store.requireNode (.text b) = .ok b := requireNode_eq_ok_iff.mpr ⟨rfl, hb⟩
  simp only [addEdge, run_store_bind, hsource, htarget, orFail, pure_bind]
  split
  · rfl
  · rcases keyOf_of_isKey hkey with ⟨key, rfl, hkey⟩ | hkey
    · have hcontains : w.store.edges.contains key = false := by
        rw [Bool.eq_false_iff, ne_eq, Table.contains_iff]
        exact hunused key rfl
      simp only [hkey, pure_bind, hcontains]
      rfl
    · simp only [hkey, pure_bind]
      rfl

theorem exists_run_putRead {s : Store} {a b o i : String} (hout : Schema.text output = .good o)
    (hin : Schema.text input = .good i) (hid : Schema.text id = .good key) (w : Workspace) :
    ∃ e w', (putRead s (.text a) output (.text b) input id).run w = .ok e w' := by
  refine ⟨⟨key, a, .text o, b, .text i⟩, ⟨s.putEdge ⟨key, a, .text o, b, .text i⟩, w.ids⟩, ?_⟩
  rw [putRead, run_orFail_bind_eq_ok_iff]
  exact ⟨_, Checked.orFault_eq_ok_iff.mpr
    (Edge.decode_parts_eq_good_iff.mpr ⟨hid, rfl, ⟨o, hout, rfl⟩, rfl, i, hin, rfl⟩), rfl⟩

theorem isKey_of_addEdge (h : (addEdge source output target input id).run w = .ok e w') :
    id.isKey = true := by
  rw [addEdge, run_store_bind, run_orFail_bind_eq_ok_iff] at h
  obtain ⟨_, _, h⟩ := h
  rw [run_orFail_bind_eq_ok_iff] at h
  obtain ⟨_, _, h⟩ := h
  by_contra hkey
  dsimp only at h
  split at h
  · exact hkey rfl
  · rw [run_orFail_bind_eq_ok_iff] at h
    obtain ⟨_, hfound, _⟩ := h
    unfold keyOf at hfound
    split at hfound
    · exact hkey rfl
    · rw [if_neg hkey] at hfound
      cases hfound

/-- Exactly what it takes for an edge to be added: nodes at both ends, pins that are read as texts,
and an id that can be looked up, that no edge has, and that is read as a text if it is given. -/
theorem exists_run_addEdge_iff :
    (∃ e w', (addEdge source output target input id).run w = .ok e w') ↔
      (∃ a ∈ w.store.nodes.keys, source = .text a) ∧ (∃ b ∈ w.store.nodes.keys, target = .text b) ∧
        ReadsAsText output ∧ ReadsAsText input ∧ id.isKey = true ∧
        (∀ key, id = .text key → key ∉ w.store.edges.keys) ∧
        (id.isTruthy = true → ReadsAsText id) := by
  constructor
  · rintro ⟨e, w', h⟩
    obtain ⟨hconnects, hunused, hid⟩ := addEdge_eq_ok h
    obtain ⟨o, ho, _⟩ := hconnects.output_text
    obtain ⟨i, hi, _⟩ := hconnects.input_text
    refine ⟨⟨_, hconnects.source_mem, hconnects.source_eq⟩,
      ⟨_, hconnects.target_mem, hconnects.target_eq⟩, ⟨o, ho⟩, ⟨i, hi⟩, isKey_of_addEdge h, hunused,
      fun htruthy => ?_⟩
    rcases hid with ⟨_, hread, _⟩ | ⟨hfalsy, _⟩
    · exact ⟨_, hread⟩
    · cases htruthy.symm.trans hfalsy
  · rintro ⟨⟨a, ha, rfl⟩, ⟨b, hb, rfl⟩, ⟨o, ho⟩, ⟨i, hi⟩, hkey, hunused, hread⟩
    rw [run_addEdge_of_unused ha hb hkey hunused, run_wantedId_bind]
    split
    · rename_i htruthy
      obtain ⟨key, hid⟩ := hread htruthy
      exact exists_run_putRead ho hi hid _
    · exact exists_run_putRead ho hi rfl _

/-! ### What it adds -/

theorem store_of_addEdge (h : (addEdge source output target input id).run w = .ok e w') :
    w'.store = w.store.putEdge e := by
  obtain ⟨_, _, ⟨_, _, rfl⟩ | ⟨_, _, rfl⟩⟩ := addEdge_eq_ok h
  · rfl
  · rfl

/-- Only an id in bytes gets past the check while an edge has it. -/
theorem mem_keys_of_addEdge_iff (h : (addEdge source output target input id).run w = .ok e w') :
    e.id ∈ w.store.edges.keys ↔ ∃ bs, id = .bytes bs ∧ bs ≠ [] ∧
      ∃ key ∈ w.store.edges.keys, Schema.utf8? bs = some key := by
  obtain ⟨_, hunused, ⟨htruthy, hid, _⟩ | ⟨hfalsy, hid, _⟩⟩ := addEdge_eq_ok h
  · rcases Schema.text_eq_good_iff.mp hid with rfl | ⟨bs, rfl, hbs⟩
    · refine iff_of_false (hunused _ rfl) ?_
      rintro ⟨bs, hbytes, _⟩
      cases hbytes
    · constructor
      · intro hmem
        refine ⟨bs, rfl, ?_, e.id, hmem, hbs⟩
        rintro rfl
        cases htruthy
      · rintro ⟨_, hbytes, _, key, hkey, hread⟩
        cases hbytes
        rwa [Option.some.inj (hbs.symm.trans hread)]
  · refine iff_of_false ?_ ?_
    · rw [hid]
      exact w.fresh_notMem_edges "edge"
    · rintro ⟨bs, rfl, hne, _⟩
      cases bs with
      | nil => exact hne rfl
      | cons b bs => cases hfalsy

theorem run_deleteEdge_of_mem (h : key ∈ w.store.edges.keys) :
    (deleteEdge (.text key)).run w =
      .ok true ⟨{ w.store with edges := w.store.edges.erase key }, w.ids⟩ := by
  have hsome : ¬ w.store.edges.keys.isEmpty = true :=
    fun hempty => List.not_mem_nil (List.isEmpty_iff.mp hempty ▸ h)
  rw [deleteEdge, run_store_bind, if_neg hsome, run_orFail_bind_eq_ok_iff]
  refine ⟨some key, rfl, ?_⟩
  simp only [Table.contains_iff.mpr h, Bool.not_true, Bool.false_eq_true, if_false]
  rfl

/-- What is added under a new id is taken out again without a trace. -/
theorem run_deleteEdge_putEdge {ids : Ids} {s : Store} (h : e.id ∉ s.edges.keys) :
    (deleteEdge (.text e.id)).run ⟨s.putEdge e, ids⟩ = .ok true ⟨s, ids⟩ := by
  have hmem : e.id ∈ (s.putEdge e).edges.keys := Table.mem_keys_insert.mpr (.inr rfl)
  rw [run_deleteEdge_of_mem hmem]
  simp only [putEdge, Table.erase_insert_of_notMem h]

/-- Adding an edge changes nothing but the edges. Its id is new unless it is given in the bytes of
the id of an edge. If it is new, the edge is put behind all others, which stay as they are, and
deleting it leads back to the store from before; if not, the edge takes the place of the one that
has the id. -/
theorem addEdge_adds (h : (addEdge source output target input id).run w = .ok e w') :
    w'.store = { w.store with edges := w'.store.edges } ∧
      (e.id ∈ w.store.edges.keys ↔ ∃ bs, id = .bytes bs ∧ bs ≠ [] ∧
        ∃ key ∈ w.store.edges.keys, Schema.utf8? bs = some key) ∧
      (e.id ∉ w.store.edges.keys →
        w'.store.edges.entries = w.store.edges.entries ++ [(e.id, e)] ∧
          (deleteEdge (.text e.id)).run w' = .ok true ⟨w.store, w'.ids⟩) ∧
      (e.id ∈ w.store.edges.keys → ∃ pre old post,
        w.store.edges.entries = pre ++ (e.id, old) :: post ∧
          w'.store.edges.entries = pre ++ (e.id, e) :: post) := by
  obtain ⟨s', ids'⟩ := w'
  obtain rfl : s' = w.store.putEdge e := store_of_addEdge h
  refine ⟨rfl, mem_keys_of_addEdge_iff h, fun hnew => ?_, fun hmem => ?_⟩
  · exact ⟨Table.entries_insert_of_notMem hnew, run_deleteEdge_putEdge hnew⟩
  · obtain ⟨old, hget⟩ := Table.mem_keys_iff.mp hmem
    obtain ⟨pre, post, hentries, hinsert⟩ := Table.exists_entries_insert hget e
    exact ⟨pre, old, post, hentries, hinsert⟩

end Store

/-- A workspace with two nodes and an edge. -/
def oneWire : Workspace :=
  (Workspace.start ⟨[], 1⟩).after
    [takeOver ⟨[⟨"a", "Constant", .origin, []⟩, ⟨"b", "Print", .origin, []⟩],
      [⟨"e1", "a", .text "value", "b", .text "value"⟩]⟩]

theorem oneWire_back {bs : List UInt8} {key : String} (hread : Schema.utf8? bs = some key) :
    ∃ e w', (addEdge (.text "b") (.text "out") (.text "a") (.text "in") (.bytes bs)).run oneWire =
      .ok e w' := by
  exact exists_run_addEdge_iff.mpr ⟨⟨"b", by decide, rfl⟩, ⟨"a", by decide, rfl⟩, ⟨_, rfl⟩, ⟨_, rfl⟩,
    rfl, nofun, fun _ => ⟨key, Schema.text_eq_good_iff.mpr (.inr ⟨bs, rfl, hread⟩)⟩⟩

theorem newBytes_added :
    ∃ e w', (addEdge (.text "b") (.text "out") (.text "a") (.text "in") (.bytes [101, 50])).run
        oneWire = .ok e w' ∧
      e.id ∉ oneWire.store.edges.keys ∧
      w'.store.edges.entries = oneWire.store.edges.entries ++ [(e.id, e)] ∧
      (deleteEdge (.text e.id)).run w' = .ok true ⟨oneWire.store, w'.ids⟩ := by
  have hread : Schema.utf8? [101, 50] = some "e2" := by decide +kernel
  obtain ⟨e, w', h⟩ := oneWire_back hread
  obtain ⟨_, hmem, hnew, _⟩ := addEdge_adds h
  have hnotMem : e.id ∉ oneWire.store.edges.keys := by
    rw [hmem]
    rintro ⟨_, hbytes, _, key, hkey, hkeyRead⟩
    cases hbytes
    obtain rfl := Option.some.inj (hread.symm.trans hkeyRead)
    revert hkey
    decide
  exact ⟨e, w', h, hnotMem, hnew hnotMem⟩

/-- Given the bytes of its id, the edge that is there is replaced. -/
theorem takenBytes_replace :
    ∃ e w', (addEdge (.text "b") (.text "out") (.text "a") (.text "in") (.bytes [101, 49])).run
        oneWire = .ok e w' ∧
      e.id ∈ oneWire.store.edges.keys ∧
      w'.store.graph.edges ≠ oneWire.store.graph.edges ++ [e] := by
  have hread : Schema.utf8? [101, 49] = some "e1" := by decide +kernel
  obtain ⟨e, w', h⟩ := oneWire_back hread
  have hmem : e.id ∈ oneWire.store.edges.keys :=
    (mem_keys_of_addEdge_iff h).mpr ⟨_, rfl, nofun, "e1", by decide, hread⟩
  refine ⟨e, w', h, hmem, fun hedges => ?_⟩
  -- no key is added, so there are not more edges than before
  have hkeys : w'.store.edges.keys = oneWire.store.edges.keys := by
    rw [store_of_addEdge h]
    exact (Table.keys_insert _ _ _).trans (if_pos hmem)
  have hmore := congrArg List.length hedges
  have hsame := congrArg List.length hkeys
  simp only [graph, Table.values, Table.keys, List.length_append, List.length_map,
    List.length_singleton] at hmore hsame
  omega

/-! ## Redirecting -/

namespace Store

variable {w w' : Workspace} {a b key : String} {v : Value} {e : Edge} {changes : EdgeChanges}

/-- The parts of an edge that changes lead to. -/
def connection (e : Edge) (changes : EdgeChanges) : EdgeChanges where
  source := changed (.text e.source) changes.source
  sourceOutput := changed e.sourceOutput changes.sourceOutput
  target := changed (.text e.target) changes.target
  targetInput := changed e.targetInput changes.targetInput

theorem run_updateEdge_of_mem (hget : w.store.edges.get? key = some e)
    (hsource : (connection e changes).source = .text a) (ha : a ∈ w.store.nodes.keys)
    (htarget : (connection e changes).target = .text b) (hb : b ∈ w.store.nodes.keys) :
    (updateEdge (.text key) changes).run w =
      .ok (some (redirected e a b changes)) ⟨w.store.putEdge (redirected e a b changes), w.ids⟩ := by
  rw [updateEdge, run_store_bind, run_orFail_bind_eq_ok_iff]
  refine ⟨some e, edge?_eq_some_iff.mpr ⟨key, rfl, hget⟩, ?_⟩
  dsimp only
  rw [run_orFail_bind_eq_ok_iff]
  refine ⟨a, requireNode_eq_ok_iff.mpr ⟨hsource, ha⟩, ?_⟩
  rw [run_orFail_bind_eq_ok_iff]
  exact ⟨b, requireNode_eq_ok_iff.mpr ⟨htarget, hb⟩, rfl⟩

theorem exists_redirected (hget : w.store.edges.get? key = some e) {found : Option Edge}
    (h : (updateEdge (.text key) changes).run w = .ok found w') :
    ∃ a ∈ w.store.nodes.keys, ∃ b ∈ w.store.nodes.keys,
      (connection e changes).source = .text a ∧ (connection e changes).target = .text b ∧
        found = some (redirected e a b changes) ∧
        w' = ⟨w.store.putEdge (redirected e a b changes), w.ids⟩ := by
  rcases updateEdge_eq_ok h with
    ⟨hnone, _⟩ | ⟨_, _, a, b, hkey, hget', hsource, ha, htarget, hb, hfound, hw⟩
  · have hsome := edge?_eq_some_iff.mpr ⟨key, rfl, hget⟩
    cases hnone.symm.trans hsome
  · obtain rfl := Value.text.inj hkey
    obtain rfl := Option.some.inj (hget.symm.trans hget')
    exact ⟨a, ha, b, hb, hsource, htarget, hfound, hw⟩

/-- An edge can be redirected exactly between nodes. -/
theorem exists_run_updateEdge_iff (hget : w.store.edges.get? key = some e) :
    (∃ found w', (updateEdge (.text key) changes).run w = .ok found w') ↔
      (∃ a ∈ w.store.nodes.keys, (connection e changes).source = .text a) ∧
        ∃ b ∈ w.store.nodes.keys, (connection e changes).target = .text b := by
  constructor
  · rintro ⟨found, w', h⟩
    obtain ⟨a, ha, b, hb, hsource, htarget, _⟩ := exists_redirected hget h
    exact ⟨⟨a, ha, hsource⟩, b, hb, htarget⟩
  · rintro ⟨⟨a, ha, hsource⟩, b, hb, htarget⟩
    exact ⟨_, _, run_updateEdge_of_mem hget hsource ha htarget hb⟩

/-- Without an id of its own, an edge can be added between nodes to pins that are read as texts. -/
theorem exists_run_addEdge_null_iff {c : EdgeChanges} :
    (∃ e w', (addEdge c.source c.sourceOutput c.target c.targetInput .null).run w = .ok e w') ↔
      ((∃ a ∈ w.store.nodes.keys, c.source = .text a) ∧
        ∃ b ∈ w.store.nodes.keys, c.target = .text b) ∧
      ReadsAsText c.sourceOutput ∧ ReadsAsText c.targetInput := by
  rw [exists_run_addEdge_iff]
  constructor
  · rintro ⟨hsource, htarget, houtput, hinput, _⟩
    exact ⟨⟨hsource, htarget⟩, houtput, hinput⟩
  · rintro ⟨⟨hsource, htarget⟩, houtput, hinput⟩
    exact ⟨hsource, htarget, houtput, hinput, rfl, nofun, nofun⟩

/-- What is read from a value is the value itself only if this is a text. -/
theorem eq_of_reads_iff {pin : Value} (h : ∃ s, Schema.text v = .good s ∧ .text s = pin) :
    pin = v ↔ ∃ s, v = .text s := by
  obtain ⟨s, hread, rfl⟩ := h
  constructor
  · exact fun h => ⟨s, h.symm⟩
  · rintro ⟨t, rfl⟩
    rw [Schema.text_eq_good_of_text hread]

end Store

/-- In every store that a run leads to, an edge can be redirected exactly between nodes, and where
that is so its new parts could also be those of a new edge, if its pins are read as texts. Redirecting
changes nothing but the edge, which keeps its id and its place and has the parts that were asked for:
those of the new edge, except for pins that are no texts themselves. -/
theorem Workspace.updateEdge_after (ids : Ids) (calls : List Call) {key : String} {e : Edge}
    (changes : EdgeChanges) (hget : ((start ids).after calls).store.edges.get? key = some e) :
    let w := (start ids).after calls
    let c := connection e changes
    ((∃ found w', (updateEdge (.text key) changes).run w = .ok found w') ↔
      (∃ a ∈ w.store.nodes.keys, c.source = .text a) ∧
        ∃ b ∈ w.store.nodes.keys, c.target = .text b) ∧
    ((∃ added w', (addEdge c.source c.sourceOutput c.target c.targetInput .null).run w =
        .ok added w') ↔
      (∃ found w', (updateEdge (.text key) changes).run w = .ok found w') ∧
        ReadsAsText c.sourceOutput ∧ ReadsAsText c.targetInput) ∧
    ∀ found w', (updateEdge (.text key) changes).run w = .ok found w' → ∃ e', found = some e' ∧
      (e'.id = key ∧ .text e'.source = c.source ∧ e'.sourceOutput = c.sourceOutput ∧
        .text e'.target = c.target ∧ e'.targetInput = c.targetInput) ∧
      w'.store = { w.store with edges := w'.store.edges } ∧
      (∃ pre post, w.store.edges.entries = pre ++ (key, e) :: post ∧
        w'.store.edges.entries = pre ++ (key, e') :: post) ∧
      ∀ added w'', (addEdge c.source c.sourceOutput c.target c.targetInput .null).run w =
          .ok added w'' →
        added.source = e'.source ∧ added.target = e'.target ∧
          (added.sourceOutput = e'.sourceOutput ↔ ∃ s, c.sourceOutput = .text s) ∧
          (added.targetInput = e'.targetInput ↔ ∃ s, c.targetInput = .text s) := by
  intro w c
  have hs : w.store.Consistent := consistent_after .empty calls
  obtain rfl : e.id = key := hs.edges_keyed key e hget
  refine ⟨exists_run_updateEdge_iff hget, ?_, fun found w' hrun => ?_⟩
  · rw [exists_run_addEdge_null_iff, exists_run_updateEdge_iff hget]
  · obtain ⟨a, _, b, _, hsource, htarget, rfl, rfl⟩ := exists_redirected hget hrun
    refine ⟨_, rfl, ⟨rfl, hsource.symm, rfl, htarget.symm, rfl⟩, rfl,
      Table.exists_entries_insert hget _, fun added w'' hadd => ?_⟩
    obtain ⟨hconnects, _⟩ := addEdge_eq_ok hadd
    exact ⟨Value.text.inj (hconnects.source_eq.symm.trans hsource),
      Value.text.inj (hconnects.target_eq.symm.trans htarget),
      eq_of_reads_iff hconnects.output_text, eq_of_reads_iff hconnects.input_text⟩

/-- The edge turned around. -/
def turned : EdgeChanges := ⟨.text "b", .null, .text "a", .text "in"⟩

theorem wire_turned :
    ∃ e, oneWire.store.edges.get? "e1" = some e ∧
      (∃ found w', (updateEdge (.text "e1") turned).run oneWire = .ok found w') ∧
      ∃ added w', (addEdge (.text "b") (.text "value") (.text "a") (.text "in") .null).run oneWire =
        .ok added w' := by
  have hget : oneWire.store.edges.get? "e1" = some ⟨"e1", "a", .text "value", "b", .text "value"⟩ :=
    rfl
  obtain ⟨hupdate, hadd, _⟩ := Workspace.updateEdge_after _ _ turned hget
  have hends := hupdate.mpr ⟨⟨"b", by decide, rfl⟩, "a", by decide, rfl⟩
  exact ⟨_, hget, hends, hadd.mpr ⟨hends, ⟨"value", rfl⟩, "in", rfl⟩⟩

/-- A number is taken as a pin of an edge that is there, but not as one of a new edge. -/
theorem numberPin_only_redirected :
    (∃ found w', (updateEdge (.text "e1") ⟨.null, .int 5, .null, .null⟩).run oneWire =
      .ok found w') ∧
    ¬ ∃ added w', (addEdge (.text "a") (.int 5) (.text "b") (.text "value") .null).run oneWire =
      .ok added w' := by
  have hget : oneWire.store.edges.get? "e1" = some ⟨"e1", "a", .text "value", "b", .text "value"⟩ :=
    rfl
  refine ⟨(exists_run_updateEdge_iff hget).mpr ⟨⟨"a", by decide, rfl⟩, "b", by decide, rfl⟩, ?_⟩
  rw [exists_run_addEdge_iff]
  rintro ⟨_, _, ⟨s, hread⟩, _⟩
  cases hread

end NodeGraph
