import NodeGraph.Proofs.Project.Reading

/-!
# Projects that are extended

A plain project is written again with more nodes and edges behind those it has. What is read then is
the project with as many nodes and edges more, where the new nodes keep their ids and types. Format
versions are not kept: the version that is written is always the same.
-/

namespace NodeGraph

open Schema Value

namespace Yaml

open Printer

theorem itemsSurvive_iff {indent : ℕ} {items : List Value} :
    ItemsSurvive indent items ↔ ∀ v ∈ items, TextsSurvive .behindMark indent v := by
  induction items with
  | nil => simp [ItemsSurvive]
  | cons v items ih => simp [ItemsSurvive, ih]

end Yaml

/-- The keys in the plain form of the field values, as they are written, are not too long. -/
def Node.KeysFit (n : Node) : Prop :=
  ∀ fields, plain? (.map n.fields) = some fields → Yaml.keysFit fields = true

/-- The graph with more nodes and edges at its end. -/
def Graph.extend (g : Graph) (nodes : List Node) (edges : List Edge) : Graph :=
  ⟨g.nodes ++ nodes, g.edges ++ edges⟩

namespace Project

open Yaml Printer

/-- The values of a project are plain data, its positions are finite and its pins are texts. -/
structure Plain (p : Project) : Prop where
  graph : p.graph.Plain
  metadata : entriesPlain p.metadata = true

/-- The project that is saved with more nodes and edges at the end of its graph. -/
def extend (p : Project) (nodes : List Node) (edges : List Edge) : Project :=
  ⟨"1.0", p.graph.extend nodes edges, p.metadata⟩

variable {p : Project} {n : Node} {e : Edge}

/-! ## What is written -/

theorem entries?_of_plain (hplain : p.Plain) (hform : p.WellFormed) :
    p.entries? = some p.record :=
  entries?_eq_record hplain.graph hform.exact.1 hplain.metadata hform.exact.2

theorem keysFit_nodeValue {v : Value} (hkeys : n.KeysFit) (h : nodeValue? n = some v) :
    keysFit v = true := by
  obtain ⟨fields, hfields, rfl⟩ := nodeValue?_eq_some h
  simp (disch := decide) [keysFit, pairKeysFit, textEntries, positionValue, hkeys fields hfields,
    keyFits_of_length]

section

variable {nodes : List Node} {edges : List Edge} {vs : List Value}

/-- The nodes that were there are written as their records, and the new ones behind them. -/
theorem entries?_extend (hplain : p.Plain) (hform : p.WellFormed)
    (hpins : ∀ e ∈ edges, e.HasTextPins) {pairs : List (Value × Value)}
    (h : (p.extend nodes edges).entries? = some pairs) :
    ∃ vs, List.Forall₂ (fun n v => nodeValue? n = some v) nodes vs ∧
      pairs = textEntries [("version", .text "1.0"),
        ("graph", .map (textEntries [("nodes", .list (p.graph.nodes.map nodeRecord ++ vs)),
          ("edges", .list ((p.graph.edges ++ edges).map edgeRecord))])),
        ("metadata", .map p.metadata)] := by
  obtain ⟨graph, metadata, hgraph, hmetadata, rfl⟩ := entries?_eq_some h
  obtain ⟨allNodes, allEdges, hallNodes, hallEdges, rfl⟩ := graphValue?_eq_some hgraph
  have hold : p.graph.nodes.mapM nodeValue? = some (p.graph.nodes.map nodeRecord) :=
    mapM_eq_map fun n hn => nodeValue?_eq_record (hplain.graph.fields n hn)
      (hform.nodes n hn).exact
  have hedges : (p.graph.edges ++ edges).mapM edgeValue? =
      some ((p.graph.edges ++ edges).map edgeRecord) :=
    mapM_eq_map fun e he => edgeValue?_eq_record
      (List.forall_mem_append.mpr ⟨hplain.graph.pins, hpins⟩ e he)
  obtain rfl := Option.some.inj (hedges.symm.trans hallEdges)
  obtain rfl := Option.some.inj
    ((plain?_eq_self (.map p.metadata) hplain.metadata hform.metadata.exact).symm.trans hmetadata)
  have hallNodes : (p.graph.nodes ++ nodes).mapM nodeValue? = some allNodes := hallNodes
  rw [List.mapM_append, hold, Option.bind_eq_bind, Option.bind_some] at hallNodes
  obtain ⟨vs, hvs, h⟩ := Option.bind_eq_some_iff.mp hallNodes
  obtain rfl := Option.some.inj h
  exact ⟨vs, mapM_eq_some_iff.mp hvs, rfl⟩

/-- The keys of what is written fit if those of the project and of the new nodes do. -/
theorem keysFit_extend (hplain : p.Plain) (hform : p.WellFormed) (hkeys : p.KeysFit)
    (hnodes : ∀ n ∈ nodes, n.KeysFit) (hpins : ∀ e ∈ edges, e.HasTextPins) :
    (p.extend nodes edges).KeysFit := by
  intro pairs h
  obtain ⟨vs, hvs, rfl⟩ := entries?_extend hplain hform hpins h
  have hrecord := hkeys _ (entries?_of_plain hplain hform)
  simp only [record, graphRecord, textEntries, List.map_cons, List.map_nil, keysFit, pairKeysFit,
    Bool.and_eq_true, Bool.and_true, itemKeysFit_iff] at hrecord ⊢
  obtain ⟨hversion, ⟨hgraph, ⟨hnodesKey, hold⟩, hedgesKey, _⟩, hmetadata⟩ := hrecord
  have hnew : ∀ v ∈ vs, keysFit v = true := by
    intro v hv
    obtain ⟨n, hn, hvalue⟩ := exists_left_of_forall₂ hvs hv
    exact keysFit_nodeValue (hnodes n hn) hvalue
  have hedges : ∀ v ∈ (p.graph.edges ++ edges).map edgeRecord, keysFit v = true :=
    List.forall_mem_map.mpr fun e he => keysFit_edgeRecord
      (List.forall_mem_append.mpr ⟨hplain.graph.pins, hpins⟩ e he)
  have hnodes := List.forall_mem_append.mpr ⟨hold, hnew⟩
  exact ⟨hversion, ⟨hgraph, ⟨hnodesKey, hnodes⟩, hedgesKey, hedges⟩, hmetadata⟩

/-! ## What is read again -/

theorem survive_of_textsSurvive (h : PairsSurvive 0 p.record) :
    (∀ n ∈ p.graph.nodes, Yaml.TextsSurvive .behindMark 2 (nodeRecord n)) ∧
      Yaml.TextsSurvive .behindKey 0 (.map p.metadata) := by
  have hnames : ["graph", "nodes", "metadata"].all isSimpleKey = true := by decide
  simp only [List.all_cons, List.all_nil, Bool.and_true, Bool.and_eq_true] at hnames
  obtain ⟨hgraph, hnodes, hmetadata⟩ := hnames
  obtain ⟨_, hgraphSurvives, hmetadataSurvives, _⟩ := h
  rw [if_pos hgraph] at hgraphSurvives
  rw [if_pos hmetadata] at hmetadataSurvives
  obtain ⟨hnodesSurvive, _⟩ := hgraphSurvives
  rw [if_pos hnodes] at hnodesSurvive
  refine ⟨fun n hn => ?_, hmetadataSurvives⟩
  exact itemsSurvive_iff.mp hnodesSurvive _ (List.mem_map_of_mem hn)

theorem reread_edgeRecord (h : e.HasTextPins) :
    rereadAt .behindMark 2 3 (edgeRecord e) = edgeRecord e := by
  refine rereadAt_eq _ _ _ _ (isPlain_edgeRecord h) (exact_edgeRecord h)
    (textsSurvive_of_depth _ _ _ ?_)
  obtain ⟨output, input, houtput, hinput⟩ := h
  simp [edgeRecord, textEntries, Value.depth, Value.pairsDepth, houtput, hinput, width]

theorem rereadUnder_text {indent : ℕ} (hindent : indent + 2 < width) (key s : String) :
    rereadUnder indent key (.text s) = .text s :=
  rereadAt_eq _ _ _ _ rfl trivial (textsSurvive_of_depth _ _ _ hindent)

/-- A node is read with its id and its type. -/
theorem exists_decode_reread {v : Value} (h : nodeValue? n = some v) :
    ∃ n', Node.decode (rereadAt .behindMark 2 3 v) = .good n' ∧
      n'.id = n.id ∧ n'.type = n.type := by
  obtain ⟨fields, hfields, rfl⟩ := nodeValue?_eq_some h
  rw [rereadAt_record .behindMark 2 3 ["id", "type", "position", "fields"] _ rfl (by decide)
    (by decide)]
  simp only [List.map_cons, List.map_nil, rereadUnder_text (show 2 + 2 + 2 < width by decide)]
  obtain ⟨position, hposition⟩ := stays_position n.position .behindKey 4 _
  obtain ⟨fs, hfs⟩ := stays_fields hfields .behindKey 4 _
  exact ⟨_, Node.decode_record hposition hfs, rfl, rfl⟩

theorem exists_decodes_reread (h : List.Forall₂ (fun n v => nodeValue? n = some v) nodes vs) :
    ∃ nodes',
      List.Forall₂ (fun v n' => Node.decode (rereadAt .behindMark 2 3 v) = .good n') vs nodes' ∧
        List.Forall₂ (fun n n' => n'.id = n.id ∧ n'.type = n.type) nodes nodes' := by
  induction h with
  | nil => exact ⟨[], .nil, .nil⟩
  | cons hfirst _ ih =>
      obtain ⟨n', hdecode, hsame⟩ := exists_decode_reread hfirst
      obtain ⟨nodes', hdecoded, hmore⟩ := ih
      exact ⟨n' :: nodes', .cons hdecode hdecoded, .cons hsame hmore⟩

/-- The nodes that were there are read as they were. -/
theorem decode_reread_nodes (hplain : p.Plain) (hform : p.WellFormed)
    (hsurvive : ∀ n ∈ p.graph.nodes, Yaml.TextsSurvive .behindMark 2 (nodeRecord n))
    {nodes' : List Node} (h : List.Forall₂
      (fun v n' => Node.decode (rereadAt .behindMark 2 3 v) = .good n') vs nodes') :
    list Node.decode (rereadUnder 2 "nodes" (.list (p.graph.nodes.map nodeRecord ++ vs))) =
      .good (p.graph.nodes ++ nodes') := by
  rw [rereadUnder, rereadAt, rereadItems_eq_map, List.map_append]
  refine list_eq_good (List.rel_append ?_ ?_)
  · rw [List.forall₂_map_left_iff, List.forall₂_map_left_iff, List.forall₂_same]
    intro n hn
    have hfields := hplain.graph.fields n hn
    have hexact := (hform.nodes n hn).exact
    have hreread := rereadAt_eq .behindMark 2 3 (nodeRecord n)
      (isPlain_nodeRecord hfields (hplain.graph.positions n hn)) (exact_nodeRecord hexact)
      (hsurvive n hn)
    rw [if_pos rfl, hreread]
    exact decode_nodeRecord hfields hexact
  · rw [List.forall₂_map_left_iff]
    exact h

theorem decode_reread_edges (hpins : ∀ e ∈ edges, e.HasTextPins) :
    list Edge.decode (rereadUnder 2 "edges" (.list (edges.map edgeRecord))) = .good edges := by
  rw [rereadUnder, rereadAt, rereadItems_eq_map]
  refine list_eq_good ?_
  rw [List.forall₂_map_left_iff, List.forall₂_map_left_iff, List.forall₂_same]
  intro e he
  rw [if_pos rfl, reread_edgeRecord (hpins e he)]
  exact decode_edgeRecord (hpins e he)

/-- A plain project that is saved with more nodes and edges is read as it was, with as many nodes
and the same edges more. -/
theorem ofText_extend (hplain : p.Plain) (hform : p.WellFormed) (hkeys : p.KeysFit)
    (hsurvive : p.TextsSurvive) (hnodes : ∀ n ∈ nodes, n.KeysFit)
    (hpins : ∀ e ∈ edges, e.HasTextPins)
    {s : String} (h : (p.extend nodes edges).text = .ok s) :
    ∃ nodes', List.Forall₂ (fun n n' => n'.id = n.id ∧ n'.type = n.type) nodes nodes' ∧
      ofText s = .ok (p.extend nodes' edges) := by
  obtain ⟨pairs, hentries, _, _⟩ := text_eq_ok h
  rw [ofText_eq_ofValue hentries (keysFit_extend hplain hform hkeys hnodes hpins) h]
  obtain ⟨vs, hvs, rfl⟩ := entries?_extend hplain hform hpins hentries
  obtain ⟨hnodesSurvive, hmetadataSurvives⟩ :=
    survive_of_textsSurvive (hsurvive _ (entries?_of_plain hplain hform))
  obtain ⟨nodes', hdecoded, hsame⟩ := exists_decodes_reread hvs
  refine ⟨nodes', hsame, ?_⟩
  have hedges := decode_reread_edges (List.forall_mem_append.mpr ⟨hplain.graph.pins, hpins⟩)
  have hfields : Fields.decode (rereadUnder 0 "metadata" (.map p.metadata)) = .good p.metadata := by
    rw [rereadUnder, rereadAt_eq .behindKey 0 _ (.map p.metadata) hplain.metadata
      hform.metadata.exact hmetadataSurvives]
    exact decode_fields hplain.metadata hform.metadata.exact
  rw [mapOf_record 0 ["version", "graph", "metadata"] _ rfl (by decide) (by decide)]
  simp only [List.map_cons, List.map_nil, rereadUnder_text (show 0 + 2 < width by decide)]
  refine ofValue_record ?_ hfields
  rw [rereadUnder, rereadAt_record .behindKey 0 _ ["nodes", "edges"] _ rfl (by decide) (by decide)]
  exact Graph.decode_record (decode_reread_nodes hplain hform hnodesSurvive hdecoded) hedges

end

end Project

end NodeGraph
