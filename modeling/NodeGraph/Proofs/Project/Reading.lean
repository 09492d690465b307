import NodeGraph.Proofs.Project
import NodeGraph.Proofs.Yaml.WellFormed

/-!
# Projects that were read

The values of a project that was read from a text are well formed, since those in the document are,
and its pins are texts. So nothing about their form has to be asked of it before it is written again.
-/

namespace NodeGraph

open Schema Value

/-! ## Reading well-formed values -/

section

variable {α : Type} {read : Value → Checked α} {pairs : List (Value × Value)} {name : String}
  {v : Value}

theorem wellFormed_of_field? (h : EntriesWellFormed pairs) (hfield : field? name pairs = some v) :
    v.WellFormed := by
  obtain ⟨pair, hfind, rfl⟩ := Option.map_eq_some_iff.mp hfield
  exact (entriesWellFormed_iff.mp h pair (List.mem_of_find?_eq_some hfind)).2

/-- A field of a well-formed record has the value for its absence or is read from a well-formed
value. -/
theorem defaulted_good_cases {missing a : α} (h : EntriesWellFormed pairs)
    (hread : defaulted [name] missing read pairs = .good a) :
    a = missing ∨ ∃ v, v.WellFormed ∧ read v = .good a := by
  cases hfield : field? name pairs with
  | none =>
      refine .inl ?_
      simpa [defaulted, found?, hfield, eq_comm] using hread
  | some v => exact .inr ⟨v, wellFormed_of_field? h hfield, of_defaulted_eq_good hfield hread⟩

/-- What is read as a sequence is read item by item, from well-formed values. -/
theorem exists_item_of_list {xs : List α} (hv : v.WellFormed) (h : list read v = .good xs) :
    ∀ x ∈ xs, ∃ item, item.WellFormed ∧ read item = .good x := by
  intro x hx
  have hall : ∀ items, AllWellFormed items →
      Checked.all (items.mapIdx fun i v => (read v).under (.index i)) = .good xs →
        ∃ item, item.WellFormed ∧ read item = .good x := by
    intro items hitems h
    obtain ⟨item, hitem, hread⟩ := exists_left_of_forall₂ (all_mapIdx_eq_good_iff.mp h) hx
    exact ⟨item, allWellFormed_iff.mp hitems item hitem, hread⟩
  cases v with
  | list items | tuple items | set items => exact hall items hv h
  | _ => cases h

theorem exists_record {f : List (Value × Value) → Checked α} {a : α} (hv : v.WellFormed)
    (h : (record v).bind f = .good a) : ∃ pairs, EntriesWellFormed pairs ∧ f pairs = .good a := by
  cases v with
  | map pairs => exact ⟨pairs, hv.2, h⟩
  | _ => cases h

end

theorem Fields.wellFormed_of_decode {v : Value} {fields : Fields} (hv : v.WellFormed)
    (h : Fields.decode v = .good fields) : (Value.map fields).WellFormed := by
  obtain ⟨entries, hentries, rfl⟩ := Checked.map_eq_good_iff.mp h
  have hmap := mapOf_textEntries entries
  show (Value.map (textEntries (Table.ofPairs entries).entries)).WellFormed
  rw [← hmap]
  refine wellFormed_mapOf ?_
  cases v with
  | map pairs =>
      have hpairs := hv.2
      rw [Schema.entries, Checked.all_eq_good_iff, List.forall₂_map_left_iff] at hentries
      clear hv h hmap
      induction hentries with
      | nil => trivial
      | cons hfirst _ ih =>
          obtain ⟨g, value, hkey, hvalue, rfl⟩ := Checked.apply_eq_good_iff.mp hfirst
          obtain ⟨key, _, rfl⟩ := Checked.map_eq_good_iff.mp hkey
          obtain rfl := Checked.good.inj (Checked.under_eq_good_iff.mp hvalue)
          exact ⟨trivial, hpairs.2.1, ih hpairs.2.2⟩
  | _ => cases hentries

/-- The field values of a node are well formed. -/
def Node.WellFormed (n : Node) : Prop := (Value.map n.fields).WellFormed

theorem Node.wellFormed_of_decode {v : Value} {n : Node} (hv : v.WellFormed)
    (h : Node.decode v = .good n) : n.WellFormed := by
  obtain ⟨pairs, hpairs, h⟩ := exists_record hv h
  simp only [Checked.apply_eq_good_iff, Checked.good.injEq] at h
  obtain ⟨_, fields, ⟨_, position, ⟨_, _, ⟨_, _, rfl, _, rfl⟩, _, rfl⟩, hposition, rfl⟩, hfields,
    rfl⟩ := h
  rcases defaulted_good_cases hpairs hfields with rfl | ⟨v, hv, hread⟩
  · exact ⟨List.nodup_nil, trivial⟩
  · exact Fields.wellFormed_of_decode hv hread

/-- The pins of an edge are read as texts. -/
theorem Edge.hasTextPins_of_decode {v : Value} {e : Edge} (hv : v.WellFormed)
    (h : Edge.decode v = .good e) : e.HasTextPins := by
  obtain ⟨pairs, _, h⟩ := exists_record hv h
  simp only [Checked.apply_eq_good_iff, Checked.map_eq_good_iff, Checked.good.injEq] at h
  obtain ⟨_, _, ⟨_, _, ⟨_, _, ⟨_, _, ⟨_, _, rfl, _, rfl⟩, _, rfl⟩, ⟨output, _, rfl⟩, rfl⟩, _, rfl⟩,
    ⟨input, _, rfl⟩, rfl⟩ := h
  exact ⟨output, input, rfl, rfl⟩

theorem Graph.wellFormed_of_decode {v : Value} {g : Graph} (hv : v.WellFormed)
    (h : Graph.decode v = .good g) :
    (∀ n ∈ g.nodes, n.WellFormed) ∧ ∀ e ∈ g.edges, e.HasTextPins := by
  obtain ⟨pairs, hpairs, h⟩ := exists_record hv h
  simp only [Checked.apply_eq_good_iff, Checked.good.injEq] at h
  obtain ⟨_, edges, ⟨_, nodes, rfl, hnodes, rfl⟩, hedges, rfl⟩ := h
  constructor
  · intro n hn
    rcases defaulted_good_cases hpairs hnodes with rfl | ⟨v, hv, hread⟩
    · cases hn
    · obtain ⟨item, hitem, hnode⟩ := exists_item_of_list hv hread n hn
      exact Node.wellFormed_of_decode hitem hnode
  · intro e he
    rcases defaulted_good_cases hpairs hedges with rfl | ⟨v, hv, hread⟩
    · cases he
    · obtain ⟨item, hitem, hedge⟩ := exists_item_of_list hv hread e he
      exact Edge.hasTextPins_of_decode hitem hedge

namespace Project

variable {p : Project}

/-- The nodes and the metadata of a project are well formed, and its pins are texts. -/
structure WellFormed (p : Project) : Prop where
  nodes : ∀ n ∈ p.graph.nodes, n.WellFormed
  pins : ∀ e ∈ p.graph.edges, e.HasTextPins
  metadata : (Value.map p.metadata).WellFormed

theorem wellFormed_of_decode {v : Value} (hv : v.WellFormed) (h : Project.decode v = .good p) :
    p.WellFormed := by
  obtain ⟨pairs, hpairs, h⟩ := exists_record hv h
  simp only [Checked.apply_eq_good_iff, Checked.good.injEq] at h
  obtain ⟨_, metadata, ⟨_, graph, ⟨_, _, rfl, _, rfl⟩, hgraph, rfl⟩, hmetadata, rfl⟩ := h
  have hgraph' : (∀ n ∈ graph.nodes, n.WellFormed) ∧ ∀ e ∈ graph.edges, e.HasTextPins := by
    rcases defaulted_good_cases hpairs hgraph with rfl | ⟨v, hv, hread⟩
    · simp [Graph.empty]
    · exact Graph.wellFormed_of_decode hv hread
  refine ⟨hgraph'.1, hgraph'.2, ?_⟩
  rcases defaulted_good_cases hpairs hmetadata with rfl | ⟨v, hv, hread⟩
  · exact ⟨List.nodup_nil, trivial⟩
  · exact Fields.wellFormed_of_decode hv hread

theorem wellFormed_of_ofText {s : String} (h : ofText s = .ok p) : p.WellFormed := by
  unfold ofText at h
  split at h
  · rename_i v hread
    have hv : v.WellFormed := by
      unfold readDocument at hread
      split at hread
      · rename_i w hdocument
        obtain rfl := Except.ok.inj hread
        exact Yaml.wellFormed_read hdocument
      · cases hread
    unfold ofValue at h
    split at h
    · exact wellFormed_of_decode (v := .map []) ⟨List.nodup_nil, trivial⟩
        (Checked.orFault_eq_ok_iff.mp h)
    · split at h
      · split at h
        · exact wellFormed_of_decode hv (Checked.orFault_eq_ok_iff.mp h)
        · cases h
      · cases h
  · cases h

theorem WellFormed.exact (h : p.WellFormed) : p.graph.Exact ∧ (Value.map p.metadata).Exact :=
  ⟨fun n hn => Value.WellFormed.exact (h.nodes n hn), h.metadata.exact⟩

end Project

end NodeGraph
