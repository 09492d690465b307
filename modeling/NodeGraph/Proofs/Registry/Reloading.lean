import NodeGraph.Proofs.Registry.Documents

/-!
# Loading a text again

What a text defines does not depend on the registry that it is loaded into: the definitions of the
documents up to the first faulty one, and the fault of that one. They are put in one after the
other, and of several with the same name the last one stays, at the place that the name had first.
Putting them in again passes through all of them again and ends where it began, so a second load
has the outcome of the first one and changes nothing.
-/

namespace NodeGraph

namespace Table

variable {α : Type}

/-- The table with values put in one after the other, each under its own key. -/
def putAll (id : α → String) (t : Table α) (xs : List α) : Table α :=
  xs.foldl (fun t x => t.insert (id x) x) t

theorem putAll_putAll (id : α → String) (t : Table α) (xs : List α) :
    putAll id (putAll id t xs) xs = putAll id t xs := by
  have heq : ∀ t, putAll id t xs = t.insertAll (xs.map fun x => (id x, x)) := by
    intro t
    rw [insertAll, List.foldl_map]
    rfl
  rw [heq, heq, insertAll_insertAll_self]

end Table

namespace Registry

variable {hooks : HookTable} {ds : List NodeDefinition} {segments : List (Int × String)}
  {documents : List String} {number : ℕ → Int} {fault : Fault}

/-! ## What a text defines -/

/-- The definitions of the documents up to the first faulty one, and the fault of this one. -/
def defined (hooks : HookTable) : List (Int × String) → List NodeDefinition × Option Fault
  | [] => ([], none)
  | (number, text) :: rest =>
    if isBlankText text then defined hooks rest
    else
      match NodeDefinition.parse hooks (some number) text with
      | .error fault => ([], some fault)
      | .ok d => (d :: (defined hooks rest).1, (defined hooks rest).2)

/-- The definitions of all documents that are not blank, if none is faulty. -/
def parseAll (hooks : HookTable) (segments : List (Int × String)) :
    Except Fault (List NodeDefinition) :=
  (segments.filter fun (_, text) => !isBlankText text).mapM fun (number, text) =>
    NodeDefinition.parse hooks (some number) text

theorem parseAll_of_defined (h : defined hooks segments = (ds, none)) :
    parseAll hooks segments = .ok ds := by
  induction segments generalizing ds with
  | nil =>
      obtain ⟨rfl, _⟩ := Prod.mk.inj h
      rfl
  | cons first rest ih =>
      obtain ⟨number, text⟩ := first
      rw [defined] at h
      split at h
      · rename_i hblank
        rw [parseAll, List.filter_cons_of_neg (by simp [hblank])]
        exact ih h
      · rename_i hblank
        cases hparse : NodeDefinition.parse hooks (some number) text with
        | error fault =>
            rw [hparse] at h
            cases (Prod.mk.inj h).2
        | ok d =>
            rw [hparse] at h
            obtain ⟨rfl, hnone⟩ := Prod.mk.inj h
            have hrest := ih (Prod.ext rfl hnone)
            rw [parseAll] at hrest
            rw [parseAll, List.filter_cons_of_pos (by simp [hblank]), List.mapM_cons, hrest]
            simp only [hparse]
            rfl

/-- The names of the definitions, unless a document is faulty. -/
def outcome : List NodeDefinition × Option Fault → Except Fault (List String)
  | (ds, none) => .ok (ds.map (·.name))
  | (_, some fault) => .error fault

theorem outcome_cons (d : NodeDefinition) (found : List NodeDefinition × Option Fault) :
    outcome (d :: found.1, found.2) = (outcome found).map (d.name :: ·) := by
  obtain ⟨ds, _ | fault⟩ := found <;> rfl

theorem outcome_eq_error_iff {found : List NodeDefinition × Option Fault} :
    outcome found = .error fault ↔ found.2 = some fault := by
  obtain ⟨ds, _ | cause⟩ := found
  · simp [outcome]
  · simp [outcome]

/-- The registry only takes what the documents define, and has no say in how the load ends. -/
theorem loadSegments_eq (r : Registry) :
    r.loadSegments hooks segments =
      ((defined hooks segments).1.foldl add r, outcome (defined hooks segments)) := by
  induction segments generalizing r with
  | nil => rfl
  | cons first rest ih =>
      obtain ⟨number, text⟩ := first
      rw [loadSegments, defined]
      split
      · exact ih r
      · cases NodeDefinition.parse hooks (some number) text with
        | error fault => rfl
        | ok d =>
            dsimp only
            rw [ih (r.add d), outcome_cons]
            rfl

/-- A fault is that of a document, and all documents in front of it are defined. -/
theorem exists_faulty (h : (defined hooks segments).2 = some fault) :
    ∃ before number text after, segments = before ++ (number, text) :: after ∧
      isBlankText text = false ∧ NodeDefinition.parse hooks (some number) text = .error fault ∧
      defined hooks before = ((defined hooks segments).1, none) := by
  induction segments with
  | nil => cases h
  | cons first rest ih =>
      obtain ⟨number, text⟩ := first
      rw [defined] at h ⊢
      split at h
      · rename_i hblank
        obtain ⟨before, n, faulty, after, rfl, hfaulty, hparse, hbefore⟩ := ih h
        refine ⟨(number, text) :: before, n, faulty, after, rfl, hfaulty, hparse, ?_⟩
        rw [defined, if_pos hblank, if_pos hblank, hbefore]
      · rename_i hblank
        cases hparse : NodeDefinition.parse hooks (some number) text with
        | error cause =>
            rw [hparse] at h
            obtain rfl := Option.some.inj h
            exact ⟨[], number, text, rest, rfl, Bool.eq_false_iff.mpr hblank, hparse, by
              rw [if_neg hblank]; rfl⟩
        | ok d =>
            rw [hparse] at h
            obtain ⟨before, n, faulty, after, rfl, hfaulty, hfault, hbefore⟩ := ih h
            refine ⟨(number, text) :: before, n, faulty, after, rfl, hfaulty, hfault, ?_⟩
            rw [defined, if_neg hblank, if_neg hblank, hparse, hbefore]

/-- The same for documents with their numbers. -/
theorem exists_faulty_document
    (h : (defined hooks (documents.mapIdx fun i s => (number i, s))).2 = some fault) :
    ∃ before segment after, documents = before ++ segment :: after ∧
      isBlankText segment = false ∧
      NodeDefinition.parse hooks (some (number before.length)) segment = .error fault ∧
      defined hooks (before.mapIdx fun i s => (number i, s)) =
        ((defined hooks (documents.mapIdx fun i s => (number i, s))).1, none) := by
  obtain ⟨front, _, segment, back, hnumbered, hblank, hparse, hfront⟩ := exists_faulty h
  obtain ⟨before, rest, rfl, rfl, hrest⟩ := List.mapIdx_eq_append_iff.mp hnumbered
  obtain ⟨_, after, rfl, hfirst, _⟩ := List.mapIdx_eq_cons_iff.mp hrest
  obtain ⟨rfl, rfl⟩ := Prod.mk.inj hfirst
  rw [Nat.zero_add] at hparse
  exact ⟨before, _, after, rfl, hblank, hparse, hfront⟩

/-- Each document that is not blank has its definition. -/
theorem forall₂_of_parseAll
    (h : parseAll hooks (documents.mapIdx fun i s => (number i, s)) = .ok ds) :
    List.Forall₂ (fun segment d => ∃ i, NodeDefinition.parse hooks (some i) segment = .ok d)
      (nonBlank documents) ds := by
  have hdocuments : (documents.mapIdx fun i s => (number i, s)).map Prod.snd = documents := by
    refine List.ext_getElem (by simp) fun i _ _ => ?_
    rw [List.getElem_map, List.getElem_mapIdx]
  have hnonBlank : nonBlank documents =
      ((documents.mapIdx fun i s => (number i, s)).filter fun (_, s) => !isBlankText s).map
        Prod.snd := by
    conv_lhs => rw [← hdocuments, nonBlank, List.filter_map]
    rfl
  rw [hnonBlank, List.forall₂_map_left_iff]
  exact (mapM_eq_ok_iff.mp h).imp fun p d hparse => ⟨p.1, hparse⟩

/-! ## Adding definitions again -/

theorem definitions_foldl_add (r : Registry) :
    (ds.foldl add r).definitions = Table.putAll (·.name) r.definitions ds := by
  induction ds generalizing r with
  | nil => rfl
  | cons d ds ih => exact ih (r.add d)

theorem reindex_foldl_add_again (r : Registry) (ds : List NodeDefinition) :
    (ds.foldl add (ds.foldl add r).reindex).reindex = (ds.foldl add r).reindex := by
  apply reindex_congr
  rw [definitions_foldl_add, definitions_foldl_add]
  show Table.putAll _ (ds.foldl add r).definitions ds = _
  rw [definitions_foldl_add, Table.putAll_putAll]

theorem load_eq (r : Registry) (text : String) :
    r.load hooks text =
      (((defined hooks (numbered (splitDocuments text))).1.foldl add r).reindex,
        outcome (defined hooks (numbered (splitDocuments text)))) := by
  rw [load, loadSegments_eq]

/-- Loading a text a second time has the same outcome, whatever the registry was before and however
the first load ended, and leaves all definitions and the index as they are. Any load of the text
takes the same definitions, one after the other: those of all documents, or of those in front of the
first faulty one, where it breaks off. -/
theorem load_again (hooks : HookTable) (r : Registry) (text : String) :
    (r.load hooks text).1.load hooks text = r.load hooks text ∧
    ∃ ds,
      (parseAll hooks (numbered (splitDocuments text)) = .ok ds ∧
        ∀ r' : Registry, r'.load hooks text =
          ((ds.foldl add r').reindex, .ok (ds.map (·.name)))) ∨
      ∃ before segment after fault, splitDocuments text = before ++ segment :: after ∧
        isBlankText segment = false ∧
        NodeDefinition.parse hooks (some before.length) segment = .error fault ∧
        parseAll hooks (numbered before) = .ok ds ∧
        ∀ r' : Registry, r'.load hooks text = ((ds.foldl add r').reindex, .error fault) := by
  constructor
  · rw [load_eq, load_eq, reindex_foldl_add_again]
  · refine ⟨(defined hooks (numbered (splitDocuments text))).1, ?_⟩
    cases hfault : (defined hooks (numbered (splitDocuments text))).2 with
    | none =>
        refine .inl ⟨parseAll_of_defined (Prod.ext rfl hfault), fun r' => ?_⟩
        rw [load_eq]
        exact Prod.ext rfl (congrArg (fun cause => outcome (_, cause)) hfault)
    | some fault =>
        obtain ⟨before, segment, after, hsplit, hblank, hparse, hbefore⟩ :=
          exists_faulty_document hfault
        refine .inr ⟨before, segment, after, fault, hsplit, hblank, hparse,
          parseAll_of_defined hbefore, fun r' => ?_⟩
        rw [load_eq]
        exact Prod.ext rfl (outcome_eq_error_iff.mpr hfault)

end Registry

end NodeGraph
