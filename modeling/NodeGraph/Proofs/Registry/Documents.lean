import NodeGraph.Proofs.Lines
import NodeGraph.Proofs.Registry.History

/-!
# Loading document by document

A document that is cut out of a text is not cut any further, so it can be loaded on its own, as a
text of one document. Loading a text has the effect of loading its documents like that one after the
other, up to the first faulty one; only the number that the fault carries tells the two apart. Blank
documents are passed over but counted.
-/

namespace NodeGraph

/-! ## Cutting a text -/

theorem notMem_of_mem_splitOn {x : Char} {cs part : List Char} (h : part ∈ cs.splitOn x) :
    x ∉ part := by
  rw [List.splitOn_eq_splitOnP] at h
  intro hx
  have hother := LineBreaks.eq_false_of_mem_splitOnP h x hx
  rw [beq_self_eq_true] at hother
  cases hother

/-- There is always a first document, which the line in front belongs to unless it separates. -/
theorem exists_groupLines_cons (line : List Char) (rest : List (List Char)) :
    ∃ first others, groupLines rest = first :: others ∧
      groupLines (line :: rest) = if isSeparatorLine line then [[]] :: ([] :: first) :: others
        else (line :: first) :: others := by
  cases hrest : groupLines rest with
  | nil =>
      cases rest with
      | nil => cases hrest
      | cons next rest =>
          obtain ⟨first, others, _, hcons⟩ := exists_groupLines_cons next rest
          rw [hcons] at hrest
          split at hrest <;> cases hrest
  | cons first others =>
      refine ⟨first, others, rfl, ?_⟩
      rw [groupLines, hrest]

/-- Lines without a separator are one document. -/
theorem groupLines_of_noSeparator {lines : List (List Char)}
    (h : ∀ line ∈ lines, isSeparatorLine line = false) : groupLines lines = [lines] := by
  induction lines with
  | nil => rfl
  | cons line rest ih =>
      obtain ⟨hline, hrest⟩ := List.forall_mem_cons.mp h
      rw [groupLines, ih hrest]
      simp [hline]

/-- A line of a document is a line of the text that does not separate, or empty. -/
theorem eq_nil_or_of_mem_groupLines {lines group : List (List Char)}
    (h : group ∈ groupLines lines) {line : List Char} (hline : line ∈ group) :
    line = [] ∨ line ∈ lines ∧ isSeparatorLine line = false := by
  induction lines generalizing group with
  | nil =>
      rw [groupLines, List.mem_singleton] at h
      rw [h] at hline
      cases hline
  | cons l rest ih =>
      obtain ⟨first, others, hrest, hcons⟩ := exists_groupLines_cons l rest
      have hbehind : ∀ group ∈ first :: others, line ∈ group →
          line = [] ∨ line ∈ l :: rest ∧ isSeparatorLine line = false := by
        intro group hgroup hline
        rcases ih (hrest ▸ hgroup) hline with hnil | ⟨hmem, hfalse⟩
        · exact .inl hnil
        · exact .inr ⟨List.mem_cons_of_mem _ hmem, hfalse⟩
      rw [hcons] at h
      split at h
      -- a separator is in no document; an empty line is left of it on both sides
      · rcases List.mem_cons.mp h with rfl | h
        · exact .inl (List.mem_singleton.mp hline)
        · rcases List.mem_cons.mp h with rfl | h
          · rcases List.mem_cons.mp hline with hnil | hline
            · exact .inl hnil
            · exact hbehind first List.mem_cons_self hline
          · exact hbehind group (List.mem_cons_of_mem _ h) hline
      · rename_i hfalse
        rcases List.mem_cons.mp h with rfl | h
        · rcases List.mem_cons.mp hline with rfl | hline
          · exact .inr ⟨List.mem_cons_self, Bool.eq_false_iff.mpr hfalse⟩
          · exact hbehind first List.mem_cons_self hline
        · exact hbehind group (List.mem_cons_of_mem _ h) hline

/-- Where there are lines, each document has one. -/
theorem ne_nil_of_mem_groupLines {lines group : List (List Char)} (hne : lines ≠ [])
    (h : group ∈ groupLines lines) : group ≠ [] := by
  induction lines generalizing group with
  | nil => exact absurd rfl hne
  | cons l rest ih =>
      obtain ⟨first, others, hrest, hcons⟩ := exists_groupLines_cons l rest
      have hothers : ∀ group ∈ others, group ≠ [] := by
        intro group hgroup
        cases rest with
        -- without lines there is one document, and it has none
        | nil =>
            obtain ⟨_, rfl⟩ := List.cons.inj hrest
            cases hgroup
        | cons next rest => exact ih (List.cons_ne_nil _ _) (hrest ▸ List.mem_cons_of_mem _ hgroup)
      rw [hcons] at h
      split at h
      · rcases List.mem_cons.mp h with rfl | h
        · exact List.cons_ne_nil _ _
        · rcases List.mem_cons.mp h with rfl | h
          · exact List.cons_ne_nil _ _
          · exact hothers group h
      · rcases List.mem_cons.mp h with rfl | h
        · exact List.cons_ne_nil _ _
        · exact hothers group h

/-- A document that was cut out of a text is one document. -/
theorem splitDocuments_of_mem {text segment : String} (h : segment ∈ splitDocuments text) :
    splitDocuments segment = [segment] := by
  obtain ⟨group, hgroup, rfl⟩ := List.mem_map.mp h
  have hne : group ≠ [] := ne_nil_of_mem_groupLines (List.splitOn_ne_nil _ _) hgroup
  have hbreak : ∀ line ∈ group, '\n' ∉ line := by
    intro line hline
    rcases eq_nil_or_of_mem_groupLines hgroup hline with rfl | ⟨hmem, _⟩
    · exact List.not_mem_nil
    · exact notMem_of_mem_splitOn hmem
  have hseparator : ∀ line ∈ group, isSeparatorLine line = false := by
    intro line hline
    rcases eq_nil_or_of_mem_groupLines hgroup hline with rfl | ⟨_, hfalse⟩
    · rfl
    · exact hfalse
  rw [splitDocuments, String.toList_ofList, List.splitOn_intercalate '\n' hbreak hne,
    groupLines_of_noSeparator hseparator, List.map_singleton]

/-! ## The number of a document -/

/-- The fault in a document, if the document has another number. -/
def Fault.inDocument (number : Int) : Fault → Fault
  | .definition _ cause => .definition (some number) cause
  | fault => fault

section

variable {hooks : HookTable} {segment : Option Int} {number : Int} {text : String}

/-- The number of a document is in its fault only. -/
theorem parse_renumber :
    NodeDefinition.parse hooks (some number) text =
      (NodeDefinition.parse hooks segment text).mapError (Fault.inDocument number) := by
  unfold NodeDefinition.parse
  cases Yaml.read text with
  | error fault => cases fault <;> rfl
  | ok v =>
      cases v with
      | map pairs =>
          show NodeDefinition.ofValue _ _ _ = (NodeDefinition.ofValue _ _ _).mapError _
          unfold NodeDefinition.ofValue
          dsimp only
          cases takeHook hooks pairs with
          | error cause => rfl
          | ok found =>
              dsimp only
              cases NodeDefinition.decode found.1 (.map found.2) <;> rfl
      | _ => rfl

theorem parse_eq_ok {d : NodeDefinition} (h : NodeDefinition.parse hooks segment text = .ok d) :
    NodeDefinition.parse hooks (some number) text = .ok d := by
  rw [parse_renumber, h]
  rfl

theorem parse_eq_error {fault : Fault}
    (h : NodeDefinition.parse hooks segment text = .error fault) :
    NodeDefinition.parse hooks (some number) text = .error (fault.inDocument number) := by
  rw [parse_renumber, h]
  rfl

end

namespace Registry

/-! ## Loading the documents that are left -/

variable {hooks : HookTable} {r r' : Registry} {number : Nat → Int} {segment : String}
  {rest segments : List String} {d : NodeDefinition} {names : List String} {fault : Fault}

/-- Loads documents, of which the one at place `i` has the number `number i`, and makes the index
anew. -/
def loadPlaced (hooks : HookTable) (number : Nat → Int) (r : Registry) (segments : List String) :
    Registry × Except Fault (List String) :=
  let (r, names) := r.loadSegments hooks (segments.mapIdx fun i segment => (number i, segment))
  (r.reindex, names)

/-- The index does not matter to what is loaded. -/
theorem loadSegments_congr {numbered : List (Int × String)} (h : r.definitions = r'.definitions) :
    (r.loadSegments hooks numbered).1.definitions = (r'.loadSegments hooks numbered).1.definitions ∧
      (r.loadSegments hooks numbered).2 = (r'.loadSegments hooks numbered).2 := by
  induction numbered generalizing r r' with
  | nil => exact ⟨h, rfl⟩
  | cons first rest ih =>
      obtain ⟨i, text⟩ := first
      rw [loadSegments, loadSegments]
      split
      · exact ih h
      · split
        · exact ⟨h, rfl⟩
        · rename_i d _
          have hadd : (r.add d).definitions = (r'.add d).definitions := by
            rw [add, add, h]
          obtain ⟨hdefinitions, hnames⟩ := ih hadd
          exact ⟨hdefinitions, congrArg (Except.map (d.name :: ·)) hnames⟩

theorem reindex_congr (h : r.definitions = r'.definitions) : r.reindex = r'.reindex := by
  rw [reindex, reindex, h]

theorem loadPlaced_reindex :
    loadPlaced hooks number r.reindex segments = loadPlaced hooks number r segments := by
  have hsame : r.reindex.definitions = r.definitions := rfl
  obtain ⟨hdefinitions, hnames⟩ := loadSegments_congr hsame
  exact Prod.ext (reindex_congr hdefinitions) hnames

theorem loadPlaced_nil : loadPlaced hooks number r [] = (r.reindex, .ok []) := rfl

theorem loadPlaced_blank (hblank : isBlankText segment = true) :
    loadPlaced hooks number r (segment :: rest) =
      loadPlaced hooks (fun i => number (i + 1)) r rest := by
  rw [loadPlaced, List.mapIdx_cons, loadSegments, if_pos hblank]
  rfl

theorem loadPlaced_error (hblank : isBlankText segment = false)
    (hparse : NodeDefinition.parse hooks (some (number 0)) segment = .error fault) :
    loadPlaced hooks number r (segment :: rest) = (r.reindex, .error fault) := by
  rw [loadPlaced, List.mapIdx_cons, loadSegments, if_neg (Bool.eq_false_iff.mp hblank), hparse]

theorem loadPlaced_ok (hblank : isBlankText segment = false)
    (hparse : NodeDefinition.parse hooks (some (number 0)) segment = .ok d) :
    loadPlaced hooks number r (segment :: rest) =
      ((loadPlaced hooks (fun i => number (i + 1)) (r.add d).reindex rest).1,
        (loadPlaced hooks (fun i => number (i + 1)) (r.add d).reindex rest).2.map
          (d.name :: ·)) := by
  rw [loadPlaced_reindex]
  rw [loadPlaced, List.mapIdx_cons, loadSegments, if_neg (Bool.eq_false_iff.mp hblank), hparse]
  rfl

/-! ## Loading the documents one by one -/

/-- The segments that hold a document. -/
def nonBlank (segments : List String) : List String := segments.filter fun s => !isBlankText s

theorem nonBlank_cons_of_blank (hblank : isBlankText segment = true) :
    nonBlank (segment :: rest) = nonBlank rest := by
  simp [nonBlank, hblank]

theorem nonBlank_cons (hblank : isBlankText segment = false) :
    nonBlank (segment :: rest) = segment :: nonBlank rest := by
  simp [nonBlank, hblank]

theorem load_eq_loadPlaced {text : String} :
    r.load hooks text = loadPlaced hooks (fun i => i) r (splitDocuments text) := rfl

section Single

variable (hsingle : splitDocuments segment = [segment]) (hblank : isBlankText segment = false)

include hsingle hblank

theorem load_error (hparse : NodeDefinition.parse hooks (some 0) segment = .error fault) :
    r.load hooks segment = (r.reindex, .error fault) := by
  rw [load_eq_loadPlaced, hsingle]
  exact loadPlaced_error hblank hparse

theorem load_ok (hparse : NodeDefinition.parse hooks (some 0) segment = .ok d) :
    r.load hooks segment = ((r.add d).reindex, .ok [d.name]) := by
  rw [load_eq_loadPlaced, hsingle]
  exact loadPlaced_ok hblank hparse

theorem loadAll_error (hparse : NodeDefinition.parse hooks (some 0) segment = .error fault) :
    r.loadAll hooks (segment :: rest) = (r.reindex, .error fault) := by
  rw [loadAll, load_error hsingle hblank hparse]

theorem loadAll_ok (hparse : NodeDefinition.parse hooks (some 0) segment = .ok d) :
    r.loadAll hooks (segment :: rest) =
      (((r.add d).reindex.loadAll hooks rest).1,
        ((r.add d).reindex.loadAll hooks rest).2.map (d.name :: ·)) := by
  rw [loadAll, load_ok hsingle hblank hparse]
  rfl

end Single

/-- Loading one by one without a fault is loading at once. -/
theorem loadPlaced_of_loadAll_ok (number : Nat → Int) (h : r.InStep)
    (hsingle : ∀ segment ∈ segments, splitDocuments segment = [segment])
    (hall : r.loadAll hooks (nonBlank segments) = (r', .ok names)) :
    loadPlaced hooks number r segments = (r', .ok names) := by
  induction segments generalizing r number names with
  | nil =>
      obtain ⟨rfl, hnames⟩ := Prod.mk.inj hall
      rw [loadPlaced_nil, h.reindex_eq, hnames]
  | cons segment rest ih =>
      obtain ⟨hfirst, hrest⟩ := List.forall_mem_cons.mp hsingle
      cases hblank : isBlankText segment with
      | true =>
          rw [nonBlank_cons_of_blank hblank] at hall
          rw [loadPlaced_blank hblank]
          exact ih _ h hrest hall
      | false =>
          rw [nonBlank_cons hblank] at hall
          cases hparse : NodeDefinition.parse hooks (some 0) segment with
          | error fault =>
              rw [loadAll_error hfirst hblank hparse] at hall
              cases hall
          | ok d =>
              rw [loadAll_ok hfirst hblank hparse] at hall
              obtain ⟨hregistry, hnames⟩ := Prod.mk.inj hall
              obtain ⟨more, hmore, rfl⟩ := map_eq_ok_iff.mp hnames
              -- the index that one load makes in between is made anew by the next
              have hloaded := ih (fun i => number (i + 1)) (inStep_reindex (h.keyed.insert d)) hrest
                (Prod.ext hregistry hmore)
              rw [loadPlaced_ok hblank (parse_eq_ok hparse), hloaded]
              rfl

/-- Loading one by one breaks off at a document, and so does loading at once. -/
theorem exists_of_loadAll_error (number : Nat → Int) (h : r.InStep)
    (hsingle : ∀ segment ∈ segments, splitDocuments segment = [segment])
    (hall : r.loadAll hooks (nonBlank segments) = (r', .error fault)) :
    ∃ before segment after names, segments = before ++ segment :: after ∧
      isBlankText segment = false ∧ r.loadAll hooks (nonBlank before) = (r', .ok names) ∧
      r'.load hooks segment = (r', .error fault) ∧
      loadPlaced hooks number r segments =
        (r', .error (fault.inDocument (number before.length))) := by
  induction segments generalizing r number with
  | nil => cases (Prod.mk.inj hall).2
  | cons segment rest ih =>
      obtain ⟨hfirst, hrest⟩ := List.forall_mem_cons.mp hsingle
      cases hblank : isBlankText segment with
      | true =>
          rw [nonBlank_cons_of_blank hblank] at hall
          obtain ⟨before, faulty, after, names, rfl, hfaulty, hbefore, hload, hplaced⟩ :=
            ih (fun i => number (i + 1)) h hrest hall
          refine ⟨segment :: before, faulty, after, names, rfl, hfaulty, ?_, hload, ?_⟩
          · rw [nonBlank_cons_of_blank hblank]
            exact hbefore
          · rw [loadPlaced_blank hblank]
            exact hplaced
      | false =>
          rw [nonBlank_cons hblank] at hall
          cases hparse : NodeDefinition.parse hooks (some 0) segment with
          | error cause =>
              rw [loadAll_error hfirst hblank hparse, h.reindex_eq] at hall
              obtain ⟨rfl, hfault⟩ := Prod.mk.inj hall
              obtain rfl := Except.error.inj hfault
              refine ⟨[], segment, rest, [], rfl, hblank, rfl, ?_, ?_⟩
              · rw [load_error hfirst hblank hparse, h.reindex_eq]
              · rw [loadPlaced_error hblank (parse_eq_error hparse), h.reindex_eq]
                rfl
          | ok d =>
              rw [loadAll_ok hfirst hblank hparse] at hall
              obtain ⟨hregistry, hnames⟩ := Prod.mk.inj hall
              obtain ⟨before, faulty, after, names, rfl, hfaulty, hbefore, hload, hplaced⟩ :=
                ih (fun i => number (i + 1)) (inStep_reindex (h.keyed.insert d)) hrest
                  (Prod.ext hregistry (map_eq_error_iff.mp hnames))
              refine ⟨segment :: before, faulty, after, d.name :: names, rfl, hfaulty, ?_, hload, ?_⟩
              · rw [nonBlank_cons hblank, loadAll_ok hfirst hblank hparse, hbefore]
                rfl
              · rw [loadPlaced_ok hblank (parse_eq_ok hparse), hplaced]
                rfl

/-- Loading a text has the effect of loading its documents one by one: without a fault they leave
the same registry and name the same definitions, and with one both break off at the same document,
those before it loaded and none behind it. The fault is the same but for the number, which counts
blank documents too. -/
theorem load_as_documents (history : List Change) (hooks : HookTable) (text : String) :
    let r := empty.after history
    (∀ r' names, r.loadAll hooks (nonBlank (splitDocuments text)) = (r', .ok names) →
      r.load hooks text = (r', .ok names)) ∧
    ∀ r' fault, r.loadAll hooks (nonBlank (splitDocuments text)) = (r', .error fault) →
      ∃ before segment after names, splitDocuments text = before ++ segment :: after ∧
        isBlankText segment = false ∧ r.loadAll hooks (nonBlank before) = (r', .ok names) ∧
        r'.load hooks segment = (r', .error fault) ∧
        r.load hooks text = (r', .error (fault.inDocument before.length)) := by
  intro r
  have h : r.InStep := inStep_after history inStep_empty
  have hsingle : ∀ segment ∈ splitDocuments text, splitDocuments segment = [segment] :=
    fun _ => splitDocuments_of_mem
  constructor
  · intro r' names hall
    exact loadPlaced_of_loadAll_ok _ h hsingle hall
  · intro r' fault hall
    exact exists_of_loadAll_error _ h hsingle hall

end Registry

end NodeGraph
