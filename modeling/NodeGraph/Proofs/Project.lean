import NodeGraph.Project
import NodeGraph.Proofs.PlainValue

/-!
# Project files

What is written for a project is read as a project again as long as its keys fit and its pins are
texts, and as the same project if its values are plain and their texts survive.
-/

namespace NodeGraph

open Schema Value

/-! ## Reading records -/

namespace Schema

variable {α : Type} {read : Value → Checked α}

theorem all_mapIdx_eq_good_iff {items : List Value} {xs : List α} :
    Checked.all (items.mapIdx fun i v => (read v).under (.index i)) = .good xs ↔
      List.Forall₂ (fun v x => read v = .good x) items xs := by
  rw [Checked.all_eq_good_iff, List.mapIdx_eq_zipIdx_map, List.forall₂_map_left_iff]
  simp only [Checked.under_eq_good_iff]
  conv_rhs => rw [← List.zipIdx_map_fst 0 items, List.forall₂_map_left_iff]

/-- A sequence is read if all its items are. -/
theorem list_eq_good {items : List Value} {xs : List α}
    (h : List.Forall₂ (fun v x => read v = .good x) items xs) :
    list read (.list items) = .good xs :=
  all_mapIdx_eq_good_iff.mpr h

/-- A sequence is read exactly if all its items are. -/
theorem exists_list_eq_good_iff {items : List Value} :
    (∃ xs, list read (.list items) = .good xs) ↔ ∀ v ∈ items, ∃ x, read v = .good x := by
  simp only [list, all_mapIdx_eq_good_iff]
  induction items with
  | nil => simp
  | cons first more ih => simp [List.forall₂_cons_left_iff, ← ih]

end Schema

theorem bind_record {α : Type} (pairs : List (Value × Value))
    (f : List (Value × Value) → Checked α) : (record (.map pairs)).bind f = f pairs := rfl

/-- The value under a name that other names stand before. -/
theorem field?_textEntries {name key : String} {v : Value} {entries : List (String × Value)} :
    field? name (textEntries ((key, v) :: entries)) =
      if key = name then some v else field? name (textEntries entries) := by
  rw [textEntries, List.map_cons, field?_cons]
  simp only [text_eqv_iff, Value.text.injEq]
  rfl

theorem required_eq_good {α : Type} {read : Value → Checked α} {name : String} {v : Value} {a : α}
    {pairs : List (Value × Value)} (hfield : field? name pairs = some v) (h : read v = .good a) :
    required [name] read pairs = .good a :=
  required_eq_good_iff.mpr ⟨v, hfield, h⟩

theorem defaulted_eq_good {α : Type} {read : Value → Checked α} {name : String} {v : Value}
    {a missing : α} {pairs : List (Value × Value)} (hfield : field? name pairs = some v)
    (h : read v = .good a) : defaulted [name] missing read pairs = .good a := by
  simp [defaulted, found?, hfield, h]

theorem of_defaulted_eq_good {α : Type} {read : Value → Checked α} {name : String} {v : Value}
    {a missing : α} {pairs : List (Value × Value)} (hfield : field? name pairs = some v)
    (h : defaulted [name] missing read pairs = .good a) : read v = .good a := by
  simpa [defaulted, found?, hfield] using h

theorem Position.decode_record (x y : Double) :
    Position.decode (.map (textEntries [("x", .float x), ("y", .float y)])) = .good ⟨x, y⟩ := by
  rw [Position.decode, bind_record]
  rw [defaulted_eq_good (v := .float x) (a := x) (by simp [field?_textEntries]) rfl,
    defaulted_eq_good (v := .float y) (a := y) (by simp [field?_textEntries]) rfl]
  rfl

theorem Node.decode_record {id type : String} {position fields : Value} {p : Position} {fs : Fields}
    (hposition : Position.decode position = .good p) (hfields : Fields.decode fields = .good fs) :
    Node.decode (.map (textEntries [("id", .text id), ("type", .text type), ("position", position),
      ("fields", fields)])) = .good ⟨id, type, p, fs⟩ := by
  rw [Node.decode, bind_record]
  rw [required_eq_good (v := .text id) (a := id) (by simp [field?_textEntries]) rfl,
    required_eq_good (v := .text type) (a := type) (by simp [field?_textEntries]) rfl,
    defaulted_eq_good (v := position) (by simp [field?_textEntries]) hposition,
    defaulted_eq_good (v := fields) (by simp [field?_textEntries]) hfields]
  rfl

theorem Edge.decode_record (id source output target input : String) :
    Edge.decode (.map (textEntries [("id", .text id), ("source", .text source),
      ("source_output", .text output), ("target", .text target), ("target_input", .text input)])) =
        .good ⟨id, source, .text output, target, .text input⟩ :=
  Edge.decode_parts_eq_good_iff.mpr ⟨rfl, rfl, ⟨output, rfl, rfl⟩, rfl, ⟨input, rfl, rfl⟩⟩

theorem Graph.decode_record {nodes edges : Value} {ns : List Node} {es : List Edge}
    (hnodes : list Node.decode nodes = .good ns) (hedges : list Edge.decode edges = .good es) :
    Graph.decode (.map (textEntries [("nodes", nodes), ("edges", edges)])) = .good ⟨ns, es⟩ := by
  rw [Graph.decode, bind_record]
  rw [defaulted_eq_good (v := nodes) (by simp [field?_textEntries]) hnodes,
    defaulted_eq_good (v := edges) (by simp [field?_textEntries]) hedges]
  rfl

theorem Project.ofValue_record {version : String} {graph metadata : Value} {g : Graph} {fs : Fields}
    (hgraph : Graph.decode graph = .good g) (hmetadata : Fields.decode metadata = .good fs) :
    Project.ofValue (.map (textEntries [("version", .text version), ("graph", graph),
      ("metadata", metadata)])) = .ok ⟨version, g, fs⟩ := by
  have hdecode : Project.decode (.map (textEntries [("version", .text version), ("graph", graph),
      ("metadata", metadata)])) = .good ⟨version, g, fs⟩ := by
    rw [Project.decode, bind_record]
    rw [defaulted_eq_good (v := .text version) (a := version) (by simp [field?_textEntries]) rfl,
      defaulted_eq_good (v := graph) (by simp [field?_textEntries]) hgraph,
      defaulted_eq_good (v := metadata) (by simp [field?_textEntries]) hmetadata]
    rfl
  rw [Project.ofValue, hdecode]
  simp only [hasTextKeys_textEntries]
  rfl

/-! ## Records in documents -/

namespace Yaml

open Printer

/-- What is read under a key on one line with its value. -/
def rereadUnder (indent : ℕ) (key : String) (v : Value) : Value :=
  rereadAt .behindKey indent (indent + (textAt true (indent + 2) indent key).length + 1) v

/-- A mapping is read as one with text keys. -/
theorem exists_rereadAt_map (spot : Spot) (indent column : ℕ) (entries : List (String × Value)) :
    ∃ entries', rereadAt spot indent column (.map (textEntries entries)) =
      .map (textEntries entries') := by
  have hpairs : ∃ pairs, rereadPairs (indent + 2) (textEntries entries) = textEntries pairs := by
    induction entries with
    | nil => exact ⟨[], rfl⟩
    | cons entry entries ih =>
        obtain ⟨key, v⟩ := entry
        obtain ⟨pairs, hpairs⟩ := ih
        have hpair : ∃ name w, rereadPair (indent + 2) (.text key, v) = (.text name, w) := by
          rw [rereadPair]
          split <;> exact ⟨_, _, rfl⟩
        obtain ⟨name, w, hpair⟩ := hpair
        refine ⟨(name, w) :: pairs, ?_⟩
        show rereadPair (indent + 2) (.text key, v) ::
          rereadPairs (indent + 2) (textEntries entries) = _
        rw [hpair, hpairs]
        rfl
  obtain ⟨pairs, hpairs⟩ := hpairs
  exact ⟨_, by rw [rereadAt, hpairs, mapOf_textEntries]⟩

/-- The keys of a record are read as they are. -/
theorem rereadPairs_record (indent : ℕ) {entries : List (String × Value)}
    (h : (entries.map Prod.fst).all isSimpleKey = true) :
    rereadPairs indent (textEntries entries) =
      textEntries (entries.map fun e => (e.1, rereadUnder indent e.1 e.2)) := by
  induction entries with
  | nil => rfl
  | cons entry entries ih =>
      obtain ⟨key, v⟩ := entry
      rw [List.map_cons, List.all_cons, Bool.and_eq_true] at h
      show rereadPair indent (.text key, v) :: rereadPairs indent (textEntries entries) = _
      rw [ih h.2, rereadPair, if_pos h.1]
      rfl

theorem mapOf_record (indent : ℕ) (names : List String) (entries : List (String × Value))
    (hnames : entries.map Prod.fst = names) (h : names.all isSimpleKey = true)
    (hnodup : names.Nodup) :
    mapOf (rereadPairs indent (textEntries entries)) =
      .map (textEntries (entries.map fun e => (e.1, rereadUnder indent e.1 e.2))) := by
  subst hnames
  rw [rereadPairs_record indent h]
  exact mapOf_of_nodup (by rwa [List.map_map])

theorem rereadAt_record (spot : Spot) (indent column : ℕ) (names : List String)
    (entries : List (String × Value)) (hnames : entries.map Prod.fst = names)
    (h : names.all isSimpleKey = true) (hnodup : names.Nodup) :
    rereadAt spot indent column (.map (textEntries entries)) =
      .map (textEntries (entries.map fun e => (e.1, rereadUnder (indent + 2) e.1 e.2))) := by
  rw [rereadAt]
  exact mapOf_record (indent + 2) names entries hnames h hnodup

theorem rereadItems_eq_map (indent : ℕ) (vs : List Value) :
    rereadItems indent vs = vs.map (rereadAt .behindMark indent (indent + 1)) := by
  induction vs with
  | nil => rfl
  | cons v vs ih => rw [rereadItems, ih, List.map_cons]

end Yaml

/-! ## What is written -/

namespace Project

open Yaml Printer

theorem nodeValue?_eq_some {n : Node} {v : Value} (h : nodeValue? n = some v) :
    ∃ fields, plain? (.map n.fields) = some fields ∧
      v = .map (textEntries [("id", .text n.id), ("type", .text n.type),
        ("position", positionValue n.position), ("fields", fields)]) := by
  obtain ⟨fields, hfields, h⟩ := Option.bind_eq_some_iff.mp h
  exact ⟨fields, hfields, (Option.some.inj h).symm⟩

theorem edgeValue?_eq_some {e : Edge} {v : Value} (h : edgeValue? e = some v) :
    ∃ output input, e.sourceOutput.plain? = some output ∧ e.targetInput.plain? = some input ∧
      v = .map (textEntries [("id", .text e.id), ("source", .text e.source),
        ("source_output", output), ("target", .text e.target), ("target_input", input)]) := by
  obtain ⟨output, houtput, h⟩ := Option.bind_eq_some_iff.mp h
  obtain ⟨input, hinput, h⟩ := Option.bind_eq_some_iff.mp h
  exact ⟨output, input, houtput, hinput, (Option.some.inj h).symm⟩

theorem graphValue?_eq_some {g : Graph} {v : Value} (h : graphValue? g = some v) :
    ∃ nodes edges, g.nodes.mapM nodeValue? = some nodes ∧ g.edges.mapM edgeValue? = some edges ∧
      v = .map (textEntries [("nodes", .list nodes), ("edges", .list edges)]) := by
  obtain ⟨nodes, hnodes, h⟩ := Option.bind_eq_some_iff.mp h
  obtain ⟨edges, hedges, h⟩ := Option.bind_eq_some_iff.mp h
  exact ⟨nodes, edges, hnodes, hedges, (Option.some.inj h).symm⟩

theorem entries?_eq_some {p : Project} {pairs : List (Value × Value)}
    (h : p.entries? = some pairs) :
    ∃ graph metadata, graphValue? p.graph = some graph ∧
      plain? (.map p.metadata) = some metadata ∧
      pairs = textEntries [("version", .text p.version), ("graph", graph),
        ("metadata", metadata)] := by
  obtain ⟨graph, hgraph, h⟩ := Option.bind_eq_some_iff.mp h
  obtain ⟨metadata, hmetadata, h⟩ := Option.bind_eq_some_iff.mp h
  exact ⟨graph, metadata, hgraph, hmetadata, (Option.some.inj h).symm⟩

/-! ## Projects that are read again -/

/-- A value that stands for something wherever it is written. -/
def Stays {α : Type} (read : Value → Checked α) (v : Value) : Prop :=
  ∀ spot indent column, ∃ a, read (rereadAt spot indent column v) = .good a

theorem stays_position (p : Position) : Stays Position.decode (positionValue p) := by
  intro spot indent column
  have hread := rereadAt_record spot indent column ["x", "y"]
    [("x", .float p.x), ("y", .float p.y)] rfl (by decide) (by decide)
  exact ⟨_, (congrArg Position.decode hread).trans (Position.decode_record _ _)⟩

/-- The plain form of a mapping is one with text keys. -/
theorem exists_plain?_map {pairs : List (Value × Value)} {w : Value}
    (h : plain? (.map pairs) = some w) : ∃ entries, w = .map (textEntries entries) := by
  obtain ⟨ws, hpairs, rfl⟩ := Option.map_eq_some_iff.mp h
  have htexts : ∃ entries, ws = textEntries entries := by
    clear h
    induction pairs generalizing ws with
    | nil => exact ⟨[], (Option.some.inj hpairs).symm⟩
    | cons pair pairs ih =>
        rw [plainEntries?] at hpairs
        split at hpairs
        · rename_i key w ws hkey hv hmore
          obtain rfl := Option.some.inj hpairs
          obtain ⟨entries, rfl⟩ := ih _ hmore
          exact ⟨(key, w) :: entries, rfl⟩
        · cases hpairs
  obtain ⟨entries, rfl⟩ := htexts
  exact ⟨_, mapOf_textEntries entries⟩

theorem stays_fields {pairs : List (Value × Value)} {w : Value}
    (h : plain? (.map pairs) = some w) : Stays Fields.decode w := by
  intro spot indent column
  obtain ⟨entries, rfl⟩ := exists_plain?_map h
  obtain ⟨entries', hread⟩ := exists_rereadAt_map spot indent column entries
  rw [hread]
  exact ⟨_, Fields.decode_textEntries entries'⟩

theorem stays_node {n : Node} {v : Value} (h : nodeValue? n = some v) : Stays Node.decode v := by
  intro spot indent column
  obtain ⟨fields, hfields, rfl⟩ := nodeValue?_eq_some h
  rw [rereadAt_record spot indent column ["id", "type", "position", "fields"] _ rfl (by decide)
    (by decide)]
  obtain ⟨p, hp⟩ := stays_position n.position .behindKey (indent + 2) _
  obtain ⟨fs, hfs⟩ := stays_fields hfields .behindKey (indent + 2) _
  exact ⟨_, Node.decode_record hp hfs⟩

/-- The pins of an edge have texts as plain forms. -/
def TextPins (e : Edge) : Prop :=
  ∃ output input, e.sourceOutput.plain? = some (.text output) ∧
    e.targetInput.plain? = some (.text input)

theorem stays_edge {e : Edge} {v : Value} (hpins : TextPins e) (h : edgeValue? e = some v) :
    Stays Edge.decode v := by
  intro spot indent column
  obtain ⟨output, input, houtput, hinput⟩ := hpins
  obtain ⟨_, _, houtput', hinput', rfl⟩ := edgeValue?_eq_some h
  obtain rfl := Option.some.inj (houtput.symm.trans houtput')
  obtain rfl := Option.some.inj (hinput.symm.trans hinput')
  rw [rereadAt_record spot indent column
    ["id", "source", "source_output", "target", "target_input"] _ rfl (by decide) (by decide)]
  exact ⟨_, Edge.decode_record _ _ _ _ _⟩

theorem stays_list {α : Type} {read : Value → Checked α} {vs : List Value}
    (h : ∀ v ∈ vs, Stays read v) : Stays (list read) (.list vs) := by
  intro spot indent column
  refine exists_list_eq_good_iff.mpr fun v hv => ?_
  rw [rereadItems_eq_map] at hv
  obtain ⟨w, hw, rfl⟩ := List.mem_map.mp hv
  exact h w hw _ _ _

theorem stays_graph {g : Graph} {v : Value} (hpins : ∀ e ∈ g.edges, TextPins e)
    (h : graphValue? g = some v) : Stays Graph.decode v := by
  intro spot indent column
  obtain ⟨nodes, edges, hnodes, hedges, rfl⟩ := graphValue?_eq_some h
  have hns : Stays (list Node.decode) (.list nodes) := stays_list fun v hv => by
    obtain ⟨n, _, hn⟩ := exists_step_of_mapM hnodes hv
    exact stays_node hn
  have hes : Stays (list Edge.decode) (.list edges) := stays_list fun v hv => by
    obtain ⟨e, he, hvalue⟩ := exists_step_of_mapM hedges hv
    exact stays_edge (hpins e he) hvalue
  obtain ⟨ns, hns⟩ := hns .behindKey (indent + 2) _
  obtain ⟨es, hes⟩ := hes .behindKey (indent + 2) _
  rw [rereadAt_record spot indent column ["nodes", "edges"] _ rfl (by decide) (by decide)]
  exact ⟨_, Graph.decode_record hns hes⟩

/-- The entries that are read again make a project. -/
theorem exists_ofValue_reread {p : Project} {pairs : List (Value × Value)}
    (hpins : ∀ e ∈ p.graph.edges, TextPins e) (h : p.entries? = some pairs) :
    ∃ q, ofValue (mapOf (rereadPairs 0 pairs)) = .ok q := by
  obtain ⟨graph, metadata, hgraph, hmetadata, rfl⟩ := entries?_eq_some h
  obtain ⟨g, hg⟩ := stays_graph hpins hgraph .behindKey 0 _
  obtain ⟨fs, hfs⟩ := stays_fields hmetadata .behindKey 0 _
  rw [mapOf_record 0 ["version", "graph", "metadata"] _ rfl (by decide) (by decide)]
  exact ⟨_, ofValue_record hg hfs⟩

theorem graph_of_ofValue {version graph metadata : Value} {p : Project}
    (h : ofValue (.map (textEntries [("version", version), ("graph", graph),
      ("metadata", metadata)])) = .ok p) : Graph.decode graph = .good p.graph := by
  have hdecode : Project.decode (.map (textEntries [("version", version), ("graph", graph),
      ("metadata", metadata)])) = .good p := by
    rw [ofValue, hasTextKeys_textEntries] at h
    exact Checked.orFault_eq_ok_iff.mp h
  rw [Project.decode, bind_record] at hdecode
  simp only [Checked.apply_eq_good_iff, Checked.good.injEq] at hdecode
  obtain ⟨_, _, ⟨_, g, ⟨_, _, rfl, _, rfl⟩, hgraph, rfl⟩, _, rfl⟩ := hdecode
  exact of_defaulted_eq_good (by simp [field?_textEntries]) hgraph

theorem edges_of_decode {nodes edges : Value} {g : Graph}
    (h : Graph.decode (.map (textEntries [("nodes", nodes), ("edges", edges)])) = .good g) :
    list Edge.decode edges = .good g.edges := by
  rw [Graph.decode, bind_record] at h
  simp only [Checked.apply_eq_good_iff, Checked.good.injEq] at h
  obtain ⟨_, _, ⟨_, _, rfl, _, rfl⟩, hedges, rfl⟩ := h
  exact of_defaulted_eq_good (by simp [field?_textEntries]) hedges

theorem exists_text_of_reread {spot : Spot} {indent column : ℕ} {v : Value} {t : String}
    (h : Schema.text (rereadAt spot indent column v) = .good t) : ∃ s, v = .text s := by
  cases v with
  | text s => exact ⟨s, rfl⟩
  | _ => cases h

theorem textPins_of_reread {spot : Spot} {indent column : ℕ} {e e' : Edge} {v : Value}
    (h : edgeValue? e = some v) (hread : Edge.decode (rereadAt spot indent column v) = .good e') :
    TextPins e := by
  obtain ⟨output, input, houtput, hinput, rfl⟩ := edgeValue?_eq_some h
  rw [rereadAt_record spot indent column
    ["id", "source", "source_output", "target", "target_input"] _ rfl (by decide)
    (by decide)] at hread
  obtain ⟨-, -, ⟨_, hsource, -⟩, -, ⟨_, htarget, -⟩⟩ := Edge.decode_parts_eq_good_iff.mp hread
  obtain ⟨s, rfl⟩ := exists_text_of_reread hsource
  obtain ⟨t, rfl⟩ := exists_text_of_reread htarget
  exact ⟨s, t, houtput, hinput⟩

/-- If the entries that are read again make a project, the pins were texts. -/
theorem textPins_of_ofValue {p q : Project} {pairs : List (Value × Value)}
    (h : p.entries? = some pairs) (hread : ofValue (mapOf (rereadPairs 0 pairs)) = .ok q) :
    ∀ e ∈ p.graph.edges, TextPins e := by
  obtain ⟨graph, metadata, hgraph, -, rfl⟩ := entries?_eq_some h
  obtain ⟨nodes, edges, -, hedges, rfl⟩ := graphValue?_eq_some hgraph
  rw [mapOf_record 0 ["version", "graph", "metadata"] _ rfl (by decide) (by decide)] at hread
  have hgraph := graph_of_ofValue hread
  rw [rereadUnder, rereadAt_record .behindKey 0 _ ["nodes", "edges"] _ rfl (by decide)
    (by decide)] at hgraph
  have hlist := exists_list_eq_good_iff.mp ⟨_, edges_of_decode hgraph⟩
  intro e he
  obtain ⟨v, hv, hvalue⟩ := exists_value_of_mapM hedges he
  rw [rereadItems_eq_map] at hlist
  obtain ⟨e', hedge⟩ := hlist _ (List.mem_map_of_mem hv)
  exact textPins_of_reread hvalue hedge

/-! ## Integers -/

theorem isWritable_nodeValue {n : Node} {v : Value} (h : nodeValue? n = some v)
    (hints : entriesWritable n.fields = true) : v.isWritable = true := by
  obtain ⟨fields, hfields, rfl⟩ := nodeValue?_eq_some h
  have hplain := isWritable_of_plain? (.map n.fields) hfields hints
  simp [textEntries, Value.isWritable, entriesWritable, positionValue, hplain]

theorem isWritable_edgeValue {e : Edge} {v : Value} (h : edgeValue? e = some v)
    (houtput : e.sourceOutput.isWritable = true) (hinput : e.targetInput.isWritable = true) :
    v.isWritable = true := by
  obtain ⟨output, input, hsource, htarget, rfl⟩ := edgeValue?_eq_some h
  simp [textEntries, Value.isWritable, entriesWritable, isWritable_of_plain? _ hsource houtput,
    isWritable_of_plain? _ htarget hinput]

theorem areWritable_of_forall {vs : List Value} (h : ∀ v ∈ vs, v.isWritable = true) :
    areWritable vs = true := by
  induction vs with
  | nil => rfl
  | cons v vs ih =>
      obtain ⟨hv, hmore⟩ := List.forall_mem_cons.mp h
      rw [areWritable, hv, ih hmore]
      rfl

/-- What a project is written with holds no integer that is too long. -/
theorem entriesWritable_entries {p : Project} {pairs : List (Value × Value)}
    (h : p.entries? = some pairs) (hints : p.isWritable = true) :
    entriesWritable pairs = true := by
  simp only [Project.isWritable, Bool.and_eq_true, List.all_eq_true] at hints
  obtain ⟨⟨hnodes, hedges⟩, hfields⟩ := hints
  obtain ⟨graph, metadata, hgraph, hmetadata, rfl⟩ := entries?_eq_some h
  obtain ⟨nodes, edges, hns, hes, rfl⟩ := graphValue?_eq_some hgraph
  have hnodes' : areWritable nodes = true := areWritable_of_forall fun v hv => by
    obtain ⟨n, hn, hvalue⟩ := exists_step_of_mapM hns hv
    exact isWritable_nodeValue hvalue (hnodes n hn)
  have hedges' : areWritable edges = true := areWritable_of_forall fun v hv => by
    obtain ⟨e, he, hvalue⟩ := exists_step_of_mapM hes hv
    exact isWritable_edgeValue hvalue (hedges e he).1 (hedges e he).2
  have hmetadata' := isWritable_of_plain? (.map p.metadata) hmetadata hfields
  simp [textEntries, Value.isWritable, entriesWritable, hnodes', hedges', hmetadata']

/-! ## Texts of projects -/

/-- The keys on one line with their values, as they are written, are not too long. -/
def KeysFit (p : Project) : Prop := ∀ pairs, p.entries? = some pairs → keysFit (.map pairs) = true

theorem text_eq_ok {p : Project} {s : String} (h : p.text = .ok s) :
    ∃ pairs, p.entries? = some pairs ∧ p.isWritable = true ∧ s = Yaml.print pairs := by
  unfold text at h
  split at h
  · rename_i pairs hentries
    split at h
    · rename_i hints
      exact ⟨pairs, hentries, hints, (Except.ok.inj h).symm⟩
    · cases h
  · cases h

theorem keysFit_of_entries {p : Project} {pairs : List (Value × Value)}
    (hentries : p.entries? = some pairs) (h : keysFit (.map pairs) = true) : p.KeysFit := by
  intro pairs' hentries'
  obtain rfl := Option.some.inj (hentries.symm.trans hentries')
  exact h

theorem text_eq_print {p : Project} {pairs : List (Value × Value)}
    (hentries : p.entries? = some pairs) (hints : p.isWritable = true) :
    p.text = .ok (Yaml.print pairs) := by
  rw [text, hentries]
  exact if_pos hints

/-- The text of a project is read as the value of its entries. -/
theorem ofText_eq_ofValue {p : Project} {s : String} {pairs : List (Value × Value)}
    (hentries : p.entries? = some pairs) (hkeys : p.KeysFit) (h : p.text = .ok s) :
    ofText s = ofValue (mapOf (rereadPairs 0 pairs)) := by
  obtain ⟨pairs', hentries', hints, rfl⟩ := text_eq_ok h
  obtain rfl : pairs = pairs' := Option.some.inj (hentries.symm.trans hentries')
  have hread := read_print (hkeys pairs hentries) (entriesWritable_entries hentries hints)
  rw [ofText, readDocument, hread]

/-- A project that is written, and whose keys fit, can be read exactly if its pins are texts. -/
theorem exists_ofText_iff {p : Project} {s : String} (hkeys : p.KeysFit) (h : p.text = .ok s) :
    (∃ q, ofText s = .ok q) ↔ ∀ e ∈ p.graph.edges, TextPins e := by
  obtain ⟨pairs, hentries, -, -⟩ := text_eq_ok h
  rw [ofText_eq_ofValue hentries hkeys h]
  constructor
  · rintro ⟨q, hread⟩
    exact textPins_of_ofValue hentries hread
  · exact fun hpins => exists_ofValue_reread hpins hentries

end Project

/-! ## Plain projects -/

/-- The pins of an edge are texts. -/
def Edge.HasTextPins (e : Edge) : Prop :=
  ∃ output input, e.sourceOutput = .text output ∧ e.targetInput = .text input

/-- The field values of a graph are plain, its positions are finite and its pins are texts. -/
structure Graph.Plain (g : Graph) : Prop where
  fields : ∀ n ∈ g.nodes, entriesPlain n.fields = true
  positions : ∀ n ∈ g.nodes, n.position.x.isFinite = true ∧ n.position.y.isFinite = true
  pins : ∀ e ∈ g.edges, ∃ output input, e.sourceOutput = .text output ∧ e.targetInput = .text input

/-- No mapping in the field values of a graph has a key twice. -/
def Graph.Exact (g : Graph) : Prop := ∀ n ∈ g.nodes, (Value.map n.fields).Exact

namespace Project

open Yaml Printer

/-- No text of a project is broken behind an escape so that something is lost. -/
def TextsSurvive (p : Project) : Prop := ∀ pairs, p.entries? = some pairs → PairsSurvive 0 pairs

def nodeRecord (n : Node) : Value :=
  .map (textEntries [("id", .text n.id), ("type", .text n.type),
    ("position", positionValue n.position), ("fields", .map n.fields)])

def edgeRecord (e : Edge) : Value :=
  .map (textEntries [("id", .text e.id), ("source", .text e.source),
    ("source_output", e.sourceOutput), ("target", .text e.target),
    ("target_input", e.targetInput)])

def graphRecord (g : Graph) : Value :=
  .map (textEntries [("nodes", .list (g.nodes.map nodeRecord)),
    ("edges", .list (g.edges.map edgeRecord))])

def record (p : Project) : List (Value × Value) :=
  textEntries [("version", .text p.version), ("graph", graphRecord p.graph),
    ("metadata", .map p.metadata)]

theorem mapM_eq_map {β : Type} {f : β → Option Value} {g : β → Value} {xs : List β}
    (h : ∀ x ∈ xs, f x = some (g x)) : xs.mapM f = some (xs.map g) := by
  rw [mapM_eq_some_iff, List.forall₂_map_right_iff, List.forall₂_same]
  exact h

variable {p : Project} {g : Graph} {n : Node} {e : Edge}

theorem nodeValue?_eq_record (hplain : entriesPlain n.fields = true)
    (hexact : (Value.map n.fields).Exact) : nodeValue? n = some (nodeRecord n) := by
  rw [nodeValue?, plain?_eq_self (.map n.fields) hplain hexact]
  rfl

theorem edgeValue?_eq_record (h : e.HasTextPins) : edgeValue? e = some (edgeRecord e) := by
  obtain ⟨output, input, houtput, hinput⟩ := h
  rw [edgeValue?, edgeRecord, houtput, hinput]
  rfl

theorem entries?_eq_record (hplain : p.graph.Plain) (hexact : p.graph.Exact)
    (hmetadata : entriesPlain p.metadata = true) (hexact' : (Value.map p.metadata).Exact) :
    p.entries? = some p.record := by
  have hnodes : p.graph.nodes.mapM nodeValue? = some (p.graph.nodes.map nodeRecord) :=
    mapM_eq_map fun n hn => nodeValue?_eq_record (hplain.fields n hn) (hexact n hn)
  have hedges : p.graph.edges.mapM edgeValue? = some (p.graph.edges.map edgeRecord) :=
    mapM_eq_map fun e he => edgeValue?_eq_record (hplain.pins e he)
  rw [entries?, graphValue?, hnodes, hedges, plain?_eq_self (.map p.metadata) hmetadata hexact']
  rfl

theorem keysFit_nodeRecord (h : pairKeysFit n.fields = true) : keysFit (nodeRecord n) = true := by
  simp (disch := decide) [nodeRecord, positionValue, keysFit, pairKeysFit, textEntries, h,
    keyFits_of_length]

theorem keysFit_edgeRecord (h : e.HasTextPins) : keysFit (edgeRecord e) = true := by
  obtain ⟨output, input, houtput, hinput⟩ := h
  simp (disch := decide) [edgeRecord, keysFit, pairKeysFit, textEntries, houtput, hinput,
    keyFits_of_length]

/-- The keys of a project with text pins fit if those of its field values and metadata do. -/
theorem keysFit_record (hfields : ∀ n ∈ p.graph.nodes, pairKeysFit n.fields = true)
    (hpins : ∀ e ∈ p.graph.edges, e.HasTextPins) (hmetadata : pairKeysFit p.metadata = true) :
    keysFit (.map p.record) = true := by
  have hnodes : ∀ n ∈ p.graph.nodes, keysFit (nodeRecord n) = true :=
    fun n hn => keysFit_nodeRecord (hfields n hn)
  have hedges : ∀ e ∈ p.graph.edges, keysFit (edgeRecord e) = true :=
    fun e he => keysFit_edgeRecord (hpins e he)
  simpa (disch := decide) [record, graphRecord, textEntries, keysFit, pairKeysFit,
    itemKeysFit_iff, keyFits_of_length] using ⟨⟨hnodes, hedges⟩, hmetadata⟩

theorem decode_fields {fields : Fields} (hplain : entriesPlain fields = true)
    (hexact : (Value.map fields).Exact) : Fields.decode (.map fields) = .good fields := by
  obtain ⟨entries, rfl⟩ := exists_textEntries hplain
  rw [Fields.decode_textEntries, Table.entries_ofPairs (nodup_of_textEntries hexact.1)]

theorem decode_nodeRecord (hplain : entriesPlain n.fields = true)
    (hexact : (Value.map n.fields).Exact) : Node.decode (nodeRecord n) = .good n :=
  Node.decode_record (Position.decode_record _ _) (decode_fields hplain hexact)

theorem decode_edgeRecord (h : e.HasTextPins) : Edge.decode (edgeRecord e) = .good e := by
  obtain ⟨output, input, houtput, hinput⟩ := h
  have hdecode := Edge.decode_record e.id e.source output e.target input
  rwa [← houtput, ← hinput] at hdecode

theorem decode_graphRecord (hplain : g.Plain) (hexact : g.Exact) :
    Graph.decode (graphRecord g) = .good g := by
  have hnodes : list Node.decode (.list (g.nodes.map nodeRecord)) = .good g.nodes := by
    refine list_eq_good ?_
    rw [List.forall₂_map_left_iff, List.forall₂_same]
    exact fun n hn => decode_nodeRecord (hplain.fields n hn) (hexact n hn)
  have hedges : list Edge.decode (.list (g.edges.map edgeRecord)) = .good g.edges := by
    refine list_eq_good ?_
    rw [List.forall₂_map_left_iff, List.forall₂_same]
    exact fun e he => decode_edgeRecord (hplain.pins e he)
  exact Graph.decode_record hnodes hedges

theorem arePlain_of_forall {vs : List Value} (h : ∀ v ∈ vs, v.isPlain = true) :
    arePlain vs = true := by
  induction vs with
  | nil => rfl
  | cons v vs ih =>
      obtain ⟨hv, hmore⟩ := List.forall_mem_cons.mp h
      rw [arePlain, hv, ih hmore]
      rfl

theorem allExact_of_forall {vs : List Value} (h : ∀ v ∈ vs, v.Exact) : AllExact vs := by
  induction vs with
  | nil => exact trivial
  | cons v vs ih =>
      obtain ⟨hv, hmore⟩ := List.forall_mem_cons.mp h
      exact ⟨hv, ih hmore⟩

theorem isPlain_nodeRecord (hfields : entriesPlain n.fields = true)
    (hposition : n.position.x.isFinite = true ∧ n.position.y.isFinite = true) :
    (nodeRecord n).isPlain = true := by
  simp [nodeRecord, positionValue, textEntries, isPlain, entriesPlain, hposition, hfields]

theorem isPlain_edgeRecord (h : e.HasTextPins) : (edgeRecord e).isPlain = true := by
  obtain ⟨output, input, houtput, hinput⟩ := h
  simp [edgeRecord, textEntries, isPlain, entriesPlain, houtput, hinput]

theorem entriesPlain_record (hplain : p.graph.Plain) (hmetadata : entriesPlain p.metadata = true) :
    entriesPlain p.record = true := by
  have hnodes : arePlain (p.graph.nodes.map nodeRecord) = true :=
    arePlain_of_forall (List.forall_mem_map.mpr fun n hn =>
      isPlain_nodeRecord (hplain.fields n hn) (hplain.positions n hn))
  have hedges : arePlain (p.graph.edges.map edgeRecord) = true :=
    arePlain_of_forall (List.forall_mem_map.mpr fun e he => isPlain_edgeRecord (hplain.pins e he))
  simp [record, graphRecord, textEntries, isPlain, entriesPlain, hnodes, hedges, hmetadata]

theorem exact_nodeRecord (hfields : (Value.map n.fields).Exact) : (nodeRecord n).Exact := by
  simp [nodeRecord, positionValue, textEntries, Value.Exact, EntriesExact]
  exact hfields

theorem exact_edgeRecord (h : e.HasTextPins) : (edgeRecord e).Exact := by
  obtain ⟨output, input, houtput, hinput⟩ := h
  simp [edgeRecord, textEntries, Value.Exact, EntriesExact, houtput, hinput]

theorem exact_record (hplain : p.graph.Plain) (hexact : p.graph.Exact)
    (hexact' : (Value.map p.metadata).Exact) : (Value.map p.record).Exact := by
  have hnodes : AllExact (p.graph.nodes.map nodeRecord) :=
    allExact_of_forall (List.forall_mem_map.mpr fun n hn =>
      exact_nodeRecord (hexact n hn))
  have hedges : AllExact (p.graph.edges.map edgeRecord) :=
    allExact_of_forall (List.forall_mem_map.mpr fun e he => exact_edgeRecord (hplain.pins e he))
  simp [record, graphRecord, textEntries, Value.Exact, EntriesExact, hnodes, hedges]
  exact hexact'

/-- A plain project is read as it was written, if its keys fit and its texts survive. -/
theorem ofText_eq_self {s : String} (hplain : p.graph.Plain) (hexact : p.graph.Exact)
    (hmetadata : entriesPlain p.metadata = true) (hexact' : (Value.map p.metadata).Exact)
    (hkeys : p.KeysFit) (hsurvive : p.TextsSurvive) (h : p.text = .ok s) : ofText s = .ok p := by
  have hentries := entries?_eq_record hplain hexact hmetadata hexact'
  have hrecord := entriesPlain_record hplain hmetadata
  obtain ⟨hdistinct, hinner⟩ := exact_record hplain hexact hexact'
  rw [ofText_eq_ofValue hentries hkeys h,
    rereadPairs_eq 0 p.record hrecord hinner (hsurvive _ hentries),
    mapOf_of_plain hrecord hdistinct]
  exact ofValue_record (decode_graphRecord hplain hexact) (decode_fields hmetadata hexact')

end Project

end NodeGraph
