import Mathlib.Algebra.Group.Nat.Even
import Mathlib.Data.List.DropRight
import NodeGraph.Proofs.Store.Deleting

/-!
# Selection and highlights

Which node is selected and which are highlighted can be read off the calls of a run: only those since
the marks were last taken away count. All marks are taken away when the store is cleared or takes
over a graph, and those of a node when it is deleted. A highlight is there after an odd number of
toggles.
-/

namespace NodeGraph

/-! ## The calls of a run -/

/-- A call of a run, and the workspace that it finds. -/
structure Moment where
  found : Workspace
  call : Call

/-- The calls of a run, each with the workspace that it finds. -/
def Workspace.moments (w : Workspace) : List Call → List Moment
  | [] => []
  | c :: calls => ⟨w, c⟩ :: (w.next c).moments calls

theorem Workspace.moments_concat (w : Workspace) (calls : List Call) (c : Call) :
    w.moments (calls ++ [c]) = w.moments calls ++ [⟨w.after calls, c⟩] := by
  induction calls generalizing w with
  | nil => rfl
  | cons first calls ih => exact congrArg (List.cons _) (ih (w.next first))

/-- What comes after the last item of a list at which something ends. -/
def since {α : Type} (ends : α → Bool) (items : List α) : List α :=
  items.rtakeWhile fun a => !ends a

theorem since_concat {α : Type} (ends : α → Bool) (items : List α) (a : α) :
    since ends (items ++ [a]) = if ends a then [] else since ends items ++ [a] := by
  rw [since, List.rtakeWhile_concat]
  cases ends a <;> rfl

/-- Something with the id is a node of the store. -/
def Store.Has (s : Store) (id : Value) : Prop := ∃ key ∈ s.nodes.keys, id = .text key

namespace Moment

def succeeds (m : Moment) : Bool :=
  match m.call.run m.found with
  | .ok _ _ => true
  | .error _ _ => false

/-- The store is cleared, or another graph is taken over. -/
def renews (m : Moment) : Bool :=
  match m.call.operation with
  | .clear | .importGraph _ _ | .importValues _ _ | .openProject _ | .openFile _ _ => m.succeeds
  | _ => false

/-- The node with the id `key` is deleted. -/
def deletes (m : Moment) (key : String) : Bool :=
  match m.call.operation with
  | .deleteNode (.text id) => id = key && m.found.store.nodes.contains key
  | _ => false

/-- The selected node is deleted. -/
def deletesSelected (m : Moment) : Bool :=
  match m.found.store.selected with
  | .text key => m.deletes key
  | _ => false

def toggles (m : Moment) (key : String) : Bool :=
  match m.call.operation with
  | .toggleHighlight (.text id) => id = key
  | _ => false

/-- What is selected by the call. -/
def selection? (m : Moment) : Option Value :=
  match m.call.operation with
  | .select id => some id
  | _ => none

/-- What is selected or highlighted by the call is a node, or the selection is taken away. -/
def MarksNodes (m : Moment) : Prop :=
  match m.call.operation with
  | .select id => id = .null ∨ m.found.store.Has id
  | .toggleHighlight id =>
      m.found.store.highlighted.any (·.eqv id) = true ∨ m.found.store.Has id
  | _ => True

end Moment

/-! ## Highlights as a list -/

/-- Highlights of which no two are equal. -/
def Distinct (highlighted : List Value) : Prop :=
  highlighted.Pairwise fun a b => a.eqv b = false

/-- The highlights after one was toggled. -/
def toggled (highlighted : List Value) (id : Value) : List Value :=
  if highlighted.any (·.eqv id) then highlighted.eraseP (·.eqv id) else highlighted ++ [id]

variable {highlighted : List Value} {id : Value} {key : String}

theorem any_eqv_text_iff : highlighted.any (·.eqv (.text key)) = true ↔ .text key ∈ highlighted := by
  simp [Value.eqv_text_iff]

theorem Distinct.toggled (h : Distinct highlighted) (id : Value) :
    Distinct (toggled highlighted id) := by
  unfold NodeGraph.toggled
  split
  · exact h.sublist (List.eraseP_sublist)
  · rename_i hnone
    rw [List.any_eq_true] at hnone
    refine List.pairwise_append.mpr ⟨h, List.pairwise_singleton _ _, ?_⟩
    intro a ha b hb
    obtain rfl := List.mem_singleton.mp hb
    exact Bool.eq_false_iff.mpr fun heq => hnone ⟨a, ha, heq⟩

/-- A toggle turns its own highlight, for there is at most one that is equal to it. -/
theorem mem_toggled_self (h : Distinct highlighted) :
    .text key ∈ toggled highlighted (.text key) ↔ .text key ∉ highlighted := by
  unfold toggled
  split
  · rename_i hany
    refine iff_of_false ?_ (not_not.mpr (any_eqv_text_iff.mp hany))
    obtain ⟨a, ha, heq⟩ := List.any_eq_true.mp hany
    obtain ⟨b, before, after, hbefore, hb, rfl, herase⟩ :=
      List.exists_of_eraseP (p := (·.eqv (.text key))) ha heq
    obtain rfl := Value.eqv_text_iff.mp hb
    rw [herase, List.mem_append, not_or]
    constructor
    · intro hmem
      exact hbefore _ hmem hb
    · intro hmem
      have hafter := (List.pairwise_cons.mp (List.pairwise_append.mp h).2.1).1 _ hmem
      exact Bool.false_ne_true (hafter.symm.trans hb)
  · rename_i hnone
    exact iff_of_true (by simp) (mt any_eqv_text_iff.mpr hnone)

/-- A toggle leaves other highlights alone. -/
theorem mem_toggled_other (h : id ≠ .text key) :
    .text key ∈ toggled highlighted id ↔ .text key ∈ highlighted := by
  have hne : ¬ (Value.text key).eqv id = true := mt Value.text_eqv_iff.mp h
  unfold toggled
  split
  · exact List.mem_eraseP_of_neg hne
  · rw [List.mem_append, List.mem_singleton, or_iff_left h.symm]

theorem mem_of_mem_toggled {a : Value} (h : a ∈ toggled highlighted id) :
    a ∈ highlighted ∨ a = id ∧ ¬ highlighted.any (·.eqv id) = true := by
  unfold toggled at h
  split at h
  · exact .inl (List.mem_of_mem_eraseP h)
  · rename_i hnone
    rcases List.mem_append.mp h with h | h
    · exact .inl h
    · exact .inr ⟨List.mem_singleton.mp h, hnone⟩

/-! ## What one call does to the marks -/

open Edit Store

namespace Store

/-- What is selected and what is highlighted are nodes of the store. -/
structure MarksOnNodes (s : Store) : Prop where
  selected : s.selected = .null ∨ s.Has s.selected
  highlighted : ∀ id ∈ s.highlighted, s.Has id

variable {s s' : Store}

theorem Has.mono (h : s.Has id) (hkeys : s.nodes.keys ⊆ s'.nodes.keys) : s'.Has id := by
  obtain ⟨key, hmem, rfl⟩ := h
  exact ⟨key, hkeys hmem, rfl⟩

theorem Has.withoutNode (h : s.Has id) (hne : id ≠ .text key) : (s.withoutNode key).Has id := by
  obtain ⟨other, hmem, rfl⟩ := h
  exact ⟨other, Table.mem_keys_erase.mpr ⟨hmem, fun heq => hne (congrArg Value.text heq)⟩, rfl⟩

end Store

/-- The operation neither sets marks nor takes them away. -/
def Operation.isQuiet : Operation → Bool
  | .deleteNode _ | .select _ | .toggleHighlight _ | .clear | .importGraph _ _
  | .importValues _ _ | .openProject _ | .openFile _ _ => false
  | _ => true

namespace Moment

/-- The call neither sets marks nor takes them away. -/
structure Quiet (m : Moment) : Prop where
  renews : m.renews = false
  deletes : ∀ key, m.deletes key = false
  toggles : ∀ key, m.toggles key = false
  selection : m.selection? = none

/-- What a call does to the selection and the highlights of the store that it finds. -/
inductive Marks (m : Moment) (s' : Store) : Prop where
  | renewed (renews : m.renews = true) (selected : s'.selected = .null)
      (highlighted : s'.highlighted = [])
  | deleted (key : String) (operation : m.call.operation = .deleteNode (.text key))
      (mem : key ∈ m.found.store.nodes.keys) (store : s' = m.found.store.withoutNode key)
  | selected (id : Value) (operation : m.call.operation = .select id)
      (store : s' = { m.found.store with selected := id })
  | toggled (id : Value) (operation : m.call.operation = .toggleHighlight id)
      (store : s' = { m.found.store with highlighted := toggled m.found.store.highlighted id })
  | kept (quiet : m.Quiet) (selected : s'.selected = m.found.store.selected)
      (highlighted : s'.highlighted = m.found.store.highlighted)
      (keys : m.found.store.nodes.keys ⊆ s'.nodes.keys)

variable {m : Moment} {allocated : Option String} {fault : Fault} {w' : Workspace}

theorem succeeds_of_ok (h : m.call.run m.found = .ok allocated w') : m.succeeds = true := by
  rw [succeeds, h]

theorem succeeds_of_error (h : m.call.run m.found = .error fault w') : m.succeeds = false := by
  rw [succeeds, h]

theorem Quiet.of_operation (h : m.call.operation.isQuiet = true) : m.Quiet := by
  obtain ⟨w, r, settings, operation⟩ := m
  cases operation with
  | deleteNode | select | toggleHighlight | clear | importGraph | importValues | openProject
  | openFile => cases h
  | _ => exact ⟨rfl, fun _ => rfl, fun _ => rfl, rfl⟩

/-- Nothing is deleted under an id that is no node's. -/
theorem Quiet.of_deleteNode (h : m.call.operation = .deleteNode id)
    (hnone : ∀ key, id = .text key → key ∉ m.found.store.nodes.keys) : m.Quiet := by
  obtain ⟨w, r, settings, operation⟩ := m
  subst h
  refine ⟨rfl, fun key => ?_, fun _ => rfl, rfl⟩
  cases id with
  | text name =>
      show (decide (name = key) && w.store.nodes.contains key) = false
      by_cases hname : name = key
      · rw [← hname, Bool.eq_false_iff.mpr (mt Table.contains_iff.mp (hnone name rfl)),
          Bool.and_false]
      · rw [decide_eq_false hname, Bool.false_and]
  | _ => rfl

theorem Quiet.marks_same (h : m.Quiet) : m.Marks m.found.store :=
  .kept h rfl rfl (List.Subset.refl _)

/-- A node that is put takes no other one out. -/
theorem Quiet.marks_putNode (h : m.Quiet) (n : Node) : m.Marks (m.found.store.putNode n) :=
  .kept h rfl rfl fun _ hkey => Table.mem_keys_insert.mpr (.inl hkey)

theorem marks_of_import {nodes : List (Checked Node)} {edges : List (Checked Edge)} {u : Unit}
    (hrenews : m.renews = true) (h : (importGraph nodes edges).run m.found = .ok u w') :
    m.Marks w'.store := by
  obtain ⟨_, _, _, _, rfl⟩ := importGraph_eq_ok_iff.mp h
  exact .renewed hrenews rfl rfl

theorem marks_of_ok (h : m.call.run m.found = .ok allocated w') : m.Marks w'.store := by
  have hsucceeds := succeeds_of_ok h
  obtain ⟨w, r, settings, operation⟩ := m
  cases operation with
  | addNode type position =>
      obtain ⟨n, hrun, _⟩ := run_bind_pure_eq_ok_iff.mp h
      obtain ⟨_, _, _, _, _, _, _, rfl⟩ := addNode_eq_ok hrun
      exact Quiet.marks_putNode (.of_operation rfl) _
  | updateNode id fields =>
      obtain ⟨_, hrun, _⟩ := run_bind_pure_eq_ok_iff.mp h
      rcases updateNode_eq_ok hrun with ⟨_, _, rfl⟩ | ⟨_, _, _, _, _, _, rfl⟩
      · exact Quiet.marks_same (.of_operation rfl)
      · exact Quiet.marks_putNode (.of_operation rfl) _
  | moveNode id position =>
      obtain ⟨_, hrun, _⟩ := run_bind_pure_eq_ok_iff.mp h
      rcases moveNode_eq_ok hrun with ⟨_, _, rfl⟩ | ⟨_, _, _, _, _, _, _, rfl⟩
      · exact Quiet.marks_same (.of_operation rfl)
      · exact Quiet.marks_putNode (.of_operation rfl) _
  | moveNodeTo id position =>
      obtain ⟨_, hrun, _⟩ := run_bind_pure_eq_ok_iff.mp h
      rcases moveNodeTo_eq_ok hrun with ⟨_, _, rfl⟩ | ⟨_, _, _, _, _, rfl⟩
      · exact Quiet.marks_same (.of_operation rfl)
      · exact Quiet.marks_putNode (.of_operation rfl) _
  | duplicateNode id =>
      obtain ⟨_, hrun, _⟩ := run_bind_pure_eq_ok_iff.mp h
      rcases duplicateNode_eq_ok hrun with ⟨_, _, rfl⟩ | ⟨_, _, copy, _, _, _, _, rfl⟩
      · exact Quiet.marks_same (.of_operation rfl)
      · exact Quiet.marks_putNode (.of_operation rfl) copy
  | deleteNode id =>
      obtain ⟨_, hrun, _⟩ := run_bind_pure_eq_ok_iff.mp h
      rcases deleteNode_eq_ok hrun with ⟨hnone, _, rfl⟩ | ⟨key, rfl, hmem, _, rfl⟩
      · exact Quiet.marks_same (.of_deleteNode rfl hnone)
      · exact .deleted key rfl hmem rfl
  | node id =>
      rw [(reads_query _ _).ok h]
      exact Quiet.marks_same (.of_operation rfl)
  | addEdge source output target input id =>
      obtain ⟨e, hrun, _⟩ := run_bind_pure_eq_ok_iff.mp h
      obtain ⟨_, _, ⟨_, _, rfl⟩ | ⟨_, _, rfl⟩⟩ := addEdge_eq_ok hrun
      · exact .kept (.of_operation rfl) rfl rfl (List.Subset.refl _)
      · exact .kept (.of_operation rfl) rfl rfl (List.Subset.refl _)
  | updateEdge id changes =>
      obtain ⟨_, hrun, _⟩ := run_bind_pure_eq_ok_iff.mp h
      rcases updateEdge_eq_ok hrun with ⟨_, _, rfl⟩ | ⟨_, _, _, _, _, _, _, _, _, _, _, rfl⟩
      · exact Quiet.marks_same (.of_operation rfl)
      · exact .kept (.of_operation rfl) rfl rfl (List.Subset.refl _)
  | deleteEdge id =>
      obtain ⟨_, hrun, _⟩ := run_bind_pure_eq_ok_iff.mp h
      rcases deleteEdge_eq_ok hrun with ⟨_, _, rfl⟩ | ⟨_, _, _, _, rfl⟩
      · exact Quiet.marks_same (.of_operation rfl)
      · exact .kept (.of_operation rfl) rfl rfl (List.Subset.refl _)
  | edge id =>
      rw [(reads_query _ _).ok h]
      exact Quiet.marks_same (.of_operation rfl)
  | select id =>
      cases h
      exact .selected id rfl rfl
  | toggleHighlight id =>
      cases h
      exact .toggled id rfl rfl
  | clear =>
      cases h
      exact .renewed hsucceeds rfl rfl
  | importGraph nodes edges =>
      obtain ⟨_, hrun, _⟩ := run_bind_pure_eq_ok_iff.mp h
      exact marks_of_import hsucceeds hrun
  | importValues nodes edges =>
      obtain ⟨_, hrun, _⟩ := run_bind_pure_eq_ok_iff.mp h
      obtain ⟨_, _, _, _, himport⟩ := importValues_eq_ok hrun
      exact marks_of_import hsucceeds himport
  | openProject text =>
      obtain ⟨_, hrun, _⟩ := run_bind_pure_eq_ok_iff.mp h
      exact marks_of_import hsucceeds (openProject_eq_ok hrun).2
  | openFile files file =>
      obtain ⟨_, hrun, _⟩ := run_bind_pure_eq_ok_iff.mp h
      obtain ⟨_, _, hopen⟩ := run_orFail_bind_eq_ok_iff.mp hrun
      exact marks_of_import hsucceeds (openProject_eq_ok hopen).2
  | connected id direction =>
      rw [(reads_query _ _).ok h]
      exact Quiet.marks_same (.of_operation rfl)
  | dependencies id =>
      cases h
      exact Quiet.marks_same (.of_operation rfl)
  | validate =>
      obtain ⟨_, hrun, _⟩ := run_bind_pure_eq_ok_iff.mp h
      obtain ⟨_, rfl⟩ := validate_eq_ok hrun
      exact .kept (.of_operation rfl) rfl rfl (List.Subset.refl _)
  | generate =>
      obtain ⟨_, hrun, _⟩ := run_bind_pure_eq_ok_iff.mp h
      rw [(reads_generate r settings).ok hrun]
      exact Quiet.marks_same (.of_operation rfl)

/-- A call that fails changes no marks. -/
theorem marks_of_error (h : m.call.run m.found = .error fault w') : m.Marks w'.store := by
  have hsucceeds := succeeds_of_error h
  rw [(m.call.operation.allOrNothing m.call.registry m.call.settings).error h]
  obtain ⟨w, r, settings, operation⟩ := m
  cases operation with
  | deleteNode id =>
      refine Quiet.marks_same (.of_deleteNode rfl ?_)
      rintro key rfl hmem
      rcases run_bind_eq_error_iff.mp h with hdelete | ⟨_, _, _, hpure⟩
      · cases (run_deleteNode_of_mem hmem).symm.trans hdelete
      · cases hpure
  | select id => cases h
  | toggleHighlight id => cases h
  | clear => cases h
  | importGraph | importValues | openProject | openFile =>
      exact Quiet.marks_same ⟨hsucceeds, fun _ => rfl, fun _ => rfl, rfl⟩
  | _ => exact Quiet.marks_same (.of_operation rfl)

theorem marks_next (w : Workspace) (c : Call) : Marks ⟨w, c⟩ (w.next c).store := by
  unfold Workspace.next
  cases hrun : c.run w with
  | ok allocated w' => exact marks_of_ok hrun
  | error fault w' => exact marks_of_error hrun

/-- The highlight of a node is turned by a toggle, and else stays unless it is taken away. -/
theorem Marks.mem_highlighted_iff {s' : Store} (h : m.Marks s')
    (hdistinct : Distinct m.found.store.highlighted) (key : String) :
    .text key ∈ s'.highlighted ↔ (m.renews || m.deletes key) = false ∧
      (m.toggles key = true ↔ .text key ∉ m.found.store.highlighted) := by
  cases h with
  | renewed renews _ highlighted => simp [highlighted, renews]
  | deleted other operation mem store =>
      have hrenews : m.renews = false := by simp only [renews, operation]
      have htoggles : m.toggles key = false := by simp only [toggles, operation]
      have hdeletes : m.deletes key = true ↔ other = key := by
        simp only [deletes, operation, Bool.and_eq_true, decide_eq_true_iff, Table.contains_iff]
        exact and_iff_left_of_imp fun heq => heq ▸ mem
      have hother : (Value.text key ≠ .text other) ↔ ¬ other = key := by
        rw [Ne, Value.text.injEq, eq_comm]
      rw [store, highlighted_withoutNode, List.mem_filter, decide_eq_true_iff, hother, hrenews,
        htoggles, Bool.false_or, Bool.eq_false_iff, Ne, hdeletes, and_comm]
      simp
  | selected id operation store =>
      have hrenews : m.renews = false := by simp only [renews, operation]
      have hdeletes : m.deletes key = false := by simp only [deletes, operation]
      have htoggles : m.toggles key = false := by simp only [toggles, operation]
      simp [store, hrenews, hdeletes, htoggles]
  | toggled id operation store =>
      have hrenews : m.renews = false := by simp only [renews, operation]
      have hdeletes : m.deletes key = false := by simp only [deletes, operation]
      have htoggles : m.toggles key = true ↔ id = .text key := by
        simp only [toggles, operation]
        cases id <;> simp
      rw [hrenews, hdeletes, htoggles, store]
      by_cases hid : id = .text key
      · subst hid
        simp [mem_toggled_self hdistinct]
      · simp [mem_toggled_other hid, hid]
  | kept quiet _ highlighted _ =>
      simp [highlighted, quiet.renews, quiet.deletes, quiet.toggles]

/-- What is selected stays selected until something else is, or until it is taken away. -/
theorem Marks.selected_eq {s' : Store} (h : m.Marks s') :
    s'.selected = if m.renews || m.deletesSelected then .null
      else m.selection?.getD m.found.store.selected := by
  have hsame (hdeletes : ∀ key, m.deletes key = false) : m.deletesSelected = false := by
    unfold deletesSelected
    split
    · exact hdeletes _
    · rfl
  cases h with
  | renewed renews selected _ => simp [selected, renews]
  | deleted key operation mem store =>
      have hrenews : m.renews = false := by simp only [renews, operation]
      have hselection : m.selection? = none := by simp only [selection?, operation]
      have hdeletes : m.deletesSelected = true ↔ m.found.store.selected = .text key := by
        unfold deletesSelected
        split
        · rename_i other heq
          simp only [heq, deletes, operation, Bool.and_eq_true, decide_eq_true_iff,
            Table.contains_iff, Value.text.injEq]
          rw [eq_comm]
          exact and_iff_left_of_imp fun heq => heq ▸ mem
        · rename_i hother
          exact iff_of_false Bool.false_ne_true (hother key)
      rw [store, selected_withoutNode, hrenews, hselection]
      simp [hdeletes]
  | selected id operation store =>
      have hrenews : m.renews = false := by simp only [renews, operation]
      have hdeletes := hsame fun key => by simp only [deletes, operation]
      have hselection : m.selection? = some id := by simp only [selection?, operation]
      simp [store, hrenews, hdeletes, hselection]
  | toggled id operation store =>
      have hrenews : m.renews = false := by simp only [renews, operation]
      have hdeletes := hsame fun key => by simp only [deletes, operation]
      have hselection : m.selection? = none := by simp only [selection?, operation]
      simp [store, hrenews, hdeletes, hselection]
  | kept quiet selected _ _ =>
      simp [selected, quiet.renews, hsame quiet.deletes, quiet.selection]

/-- Marks on nodes stay marks on nodes, for a node that is taken out takes its marks along. -/
theorem Marks.onNodes {s' : Store} (h : m.Marks s') (hmarks : m.MarksNodes)
    (hon : m.found.store.MarksOnNodes) : s'.MarksOnNodes := by
  cases h with
  | renewed _ selected highlighted => exact ⟨.inl selected, by simp [highlighted]⟩
  | deleted key operation mem store =>
      subst store
      constructor
      · rw [selected_withoutNode]
        split
        · exact .inl rfl
        · rename_i hne
          exact hon.selected.imp_right fun hhas => hhas.withoutNode hne
      · intro id hid
        rw [highlighted_withoutNode, List.mem_filter, decide_eq_true_iff] at hid
        exact (hon.highlighted id hid.1).withoutNode hid.2
  | selected id operation store =>
      subst store
      simp only [MarksNodes, operation] at hmarks
      exact ⟨hmarks, hon.highlighted⟩
  | toggled id operation store =>
      subst store
      simp only [MarksNodes, operation] at hmarks
      refine ⟨hon.selected, fun a ha => ?_⟩
      rcases mem_of_mem_toggled ha with ha | ⟨rfl, hnone⟩
      · exact hon.highlighted a ha
      · exact hmarks.resolve_left hnone
  | kept _ selected highlighted keys =>
      constructor
      · rw [selected]
        exact hon.selected.imp_right fun hhas => hhas.mono keys
      · rw [highlighted]
        exact fun id hid => (hon.highlighted id hid).mono keys

end Moment

/-! ## What a run does to the marks -/

namespace Workspace

variable {w : Workspace} {calls : List Call}

theorem after_concat (w : Workspace) (calls : List Call) (c : Call) :
    w.after (calls ++ [c]) = (w.after calls).next c := by
  rw [after, List.foldl_append]
  rfl

theorem distinct_after (h : Distinct w.store.highlighted) (calls : List Call) :
    Distinct (w.after calls).store.highlighted := by
  induction calls using List.reverseRecOn with
  | nil => exact h
  | append_singleton calls c ih =>
      rw [after_concat]
      cases Moment.marks_next (w.after calls) c with
      | renewed _ _ highlighted => exact highlighted ▸ List.Pairwise.nil
      | deleted key _ _ store => exact store ▸ ih.filter _
      | selected id _ store => exact store ▸ ih
      | toggled id _ store => exact store ▸ ih.toggled id
      | kept _ _ highlighted => exact highlighted ▸ ih

/-- An id is highlighted after an odd number of toggles since its highlight was last taken away. -/
theorem mem_highlighted_after (ids : Ids) (calls : List Call) (key : String) :
    .text key ∈ ((start ids).after calls).store.highlighted ↔
      Odd ((since (fun m => m.renews || m.deletes key) ((start ids).moments calls)).countP
        (·.toggles key)) := by
  induction calls using List.reverseRecOn with
  | nil => exact iff_of_false List.not_mem_nil (by simp [moments, since])
  | append_singleton calls c ih =>
      have hdistinct := distinct_after (w := start ids) List.Pairwise.nil calls
      have hmarks := Moment.marks_next ((start ids).after calls) c
      rw [after_concat, moments_concat, since_concat, hmarks.mem_highlighted_iff hdistinct]
      split
      · rename_i hends
        simp [hends]
      · rename_i hends
        rw [List.countP_append, List.countP_singleton, ih]
        split
        · rename_i htoggles
          simp [hends, htoggles, Nat.odd_add_one]
        · rename_i htoggles
          simp [hends, htoggles]

theorem selected_after (ids : Ids) (calls : List Call) :
    ((start ids).after calls).store.selected =
      ((since (fun m => m.renews || m.deletesSelected) ((start ids).moments calls)).filterMap
        (·.selection?)).getLast?.getD .null := by
  induction calls using List.reverseRecOn with
  | nil => rfl
  | append_singleton calls c ih =>
      have hmarks := Moment.marks_next ((start ids).after calls) c
      rw [after_concat, moments_concat, since_concat, hmarks.selected_eq]
      split
      · rfl
      · rw [List.filterMap_append, ih]
        cases hselection : Moment.selection? ⟨(start ids).after calls, c⟩ with
        | none => simp [hselection]
        | some id => simp [hselection]

theorem marksOnNodes_after (h : w.store.MarksOnNodes) :
    (∀ m ∈ w.moments calls, m.MarksNodes) → (w.after calls).store.MarksOnNodes := by
  induction calls generalizing w with
  | nil => exact fun _ => h
  | cons c calls ih =>
      intro hmarks
      obtain ⟨hfirst, hrest⟩ := List.forall_mem_cons.mp hmarks
      exact ih ((Moment.marks_next w c).onNodes hfirst h) hrest

/-- In every store that a run leads to, nothing is highlighted twice. A node is highlighted after an
odd number of toggles since the store was last renewed or the node deleted. What was selected last is
selected, unless since then the store was renewed or the selected node deleted. If all that the run
selects or highlights are nodes at that moment, then all marks are on nodes of the store. -/
theorem marks_after (ids : Ids) (calls : List Call) :
    let s := ((start ids).after calls).store
    let moments := (start ids).moments calls
    Distinct s.highlighted ∧
    (∀ key, .text key ∈ s.highlighted ↔
      Odd ((since (fun m => m.renews || m.deletes key) moments).countP (·.toggles key))) ∧
    s.selected = ((since (fun m => m.renews || m.deletesSelected) moments).filterMap
      (·.selection?)).getLast?.getD .null ∧
    ((∀ m ∈ moments, m.MarksNodes) → s.MarksOnNodes) :=
  ⟨distinct_after (w := start ids) .nil calls, mem_highlighted_after ids calls,
    selected_after ids calls, marksOnNodes_after ⟨.inl rfl, by simp [start, Store.empty]⟩⟩

end Workspace

/-- Marks on two nodes, a graph that cannot be taken over, and the deletion of one of them. -/
def markCalls : List Call :=
  [takeOver ⟨[⟨"a", "Relay", .origin, []⟩, ⟨"b", "Relay", .origin, []⟩], []⟩,
    ⟨.empty, .standard, .select (.text "a")⟩,
    ⟨.empty, .standard, .toggleHighlight (.text "b")⟩,
    ⟨.empty, .standard, .toggleHighlight (.text "a")⟩,
    takeOver ⟨[⟨"c", "Relay", .origin, []⟩, ⟨"c", "Relay", .origin, []⟩], []⟩,
    ⟨.empty, .standard, .deleteNode (.text "b")⟩]

theorem markCalls_mark_nodes :
    let s := ((Workspace.start ⟨[], 1⟩).after markCalls).store
    (∀ m ∈ (Workspace.start ⟨[], 1⟩).moments markCalls, m.MarksNodes) ∧ s.MarksOnNodes ∧
      .text "a" ∈ s.highlighted ∧ .text "b" ∉ s.highlighted ∧ s.selected = .text "a" := by
  intro s
  obtain ⟨-, hhighlighted, hselected, hon⟩ := Workspace.marks_after ⟨[], 1⟩ markCalls
  have hmarks : ∀ m ∈ (Workspace.start ⟨[], 1⟩).moments markCalls, m.MarksNodes := by
    refine List.forall_mem_cons.mpr ⟨trivial, List.forall_mem_cons.mpr ⟨.inr ⟨"a", ?_, rfl⟩,
      List.forall_mem_cons.mpr ⟨.inr ⟨"b", ?_, rfl⟩, List.forall_mem_cons.mpr ⟨.inr ⟨"a", ?_, rfl⟩,
      List.forall_mem_cons.mpr ⟨trivial, List.forall_mem_cons.mpr ⟨trivial, ?_⟩⟩⟩⟩⟩⟩
    · decide
    · decide
    · decide
    · exact fun _ h => absurd h List.not_mem_nil
  refine ⟨hmarks, hon hmarks, (hhighlighted "a").mpr ?_, mt (hhighlighted "b").mp ?_,
    hselected.trans ?_⟩
  · decide
  · decide
  · rfl

end NodeGraph
