import NodeGraph.Proofs.Registry.History
import NodeGraph.Proofs.Schema

/-!
# Where hooks come from

A definition in a registry has no hook, or one that the table of a load offered under the name in
the document, or one that it was given later. So what holds of all these hooks holds of all hooks of
the registry.
-/

namespace NodeGraph

variable {hooks : HookTable}

/-- The table has the hook under some name. -/
def HookTable.Offers (hooks : HookTable) (hook : Hook) : Prop :=
  ∃ name, hooks.get? name = some (some hook)

/-! ## Hooks in documents -/

theorem offers_of_takeHook {pairs rest : List (Value × Value)} {found : Option Hook}
    (h : takeHook hooks pairs = .ok (found, rest)) : ∀ hook ∈ found, hooks.Offers hook := by
  intro hook hfound
  rw [Option.mem_def] at hfound
  subst hfound
  unfold takeHook at h
  split at h
  · cases h
  · cases h
  · rename_i name _
    split at h
    · rename_i entry hentry
      obtain ⟨rfl, _⟩ := Prod.mk.inj (Except.ok.inj h)
      exact ⟨name, hentry⟩
    · cases h
  · cases h

/-- A hook that was resolved before is the hook of the definition, and a document without one
describes a definition without one. -/
theorem NodeDefinition.hook_of_decode {given : Option Hook} {v : Value} {d : NodeDefinition}
    (h : decode given v = .good d) : d.hook = given := by
  unfold decode at h
  cases v with
  | map pairs =>
      simp only [Schema.record, Checked.bind, Checked.apply_eq_good_iff] at h
      obtain ⟨_, hook, ⟨_, _, ⟨_, _, ⟨_, _, ⟨_, _, ⟨_, _, ⟨_, _, hmk, _, rfl⟩, _, rfl⟩, _, rfl⟩, _,
        rfl⟩, _, rfl⟩, _, rfl⟩, hhook, rfl⟩ := h
      obtain rfl := Checked.good.inj hmk
      show hook = given
      cases given with
      | some given => exact (Checked.good.inj hhook).symm
      | none =>
          rcases Schema.of_defaulted_good hhook with rfl | ⟨v, hv⟩
          · rfl
          -- a value for the hook that is not null is refused
          · cases v with
            | null => exact (Checked.good.inj hv).symm
            | _ => cases hv
  | _ => cases h

theorem NodeDefinition.offers_of_parse {segment : Option Int} {text : String} {d : NodeDefinition}
    (h : parse hooks segment text = .ok d) : ∀ hook ∈ d.hook, hooks.Offers hook := by
  unfold parse at h
  split at h
  · unfold ofValue at h
    split at h
    · split at h
      · cases h
      · rename_i given rest hgiven
        split at h
        · rename_i d' hdecode
          obtain rfl := Except.ok.inj h
          rw [hook_of_decode hdecode]
          exact offers_of_takeHook hgiven
        · cases h
        · cases h
    · cases h
  · cases h
  · cases h

namespace Registry

/-! ## Hooks in registries -/

/-- The call may bring the hook into the registry. -/
def Change.Supplies (hook : Hook) : Change → Prop
  | .load hooks _ | .interruptedLoad hooks _ _ | .loadFile hooks _ _ | .loadDirectory hooks _ _
  | .loadAll hooks _ => hooks.Offers hook
  | .attach _ given => hook ∈ given

/-- All hooks of the definitions have a property. -/
def AllHooks (P : Hook → Prop) (r : Registry) : Prop :=
  ∀ name d, r.get? name = some d → ∀ hook ∈ d.hook, P hook

variable {P : Hook → Prop} {r r' : Registry}

theorem allHooks_empty : empty.AllHooks P := by
  intro name d hget
  cases hget

theorem AllHooks.insert (h : r.AllHooks P) (key : String) {d : NodeDefinition}
    (hd : ∀ hook ∈ d.hook, P hook) :
    { r with definitions := r.definitions.insert key d }.AllHooks P := by
  intro name found hget
  rw [get?, Table.get?_insert] at hget
  split at hget
  · obtain rfl := Option.some.inj hget
    exact hd
  · exact h name found hget

theorem AllHooks.reindex (h : r.AllHooks P) : r.reindex.AllHooks P := h

theorem allHooks_loadSegments (hoffers : ∀ hook, hooks.Offers hook → P hook)
    (segments : List (Int × String)) (h : r.AllHooks P) :
    (r.loadSegments hooks segments).1.AllHooks P := by
  induction segments generalizing r with
  | nil => exact h
  | cons segment rest ih =>
      obtain ⟨number, text⟩ := segment
      rw [loadSegments]
      split
      · exact ih h
      · split
        · exact h
        · rename_i d hparse
          apply ih
          apply h.insert
          intro hook hhook
          exact hoffers hook (NodeDefinition.offers_of_parse hparse hook hhook)

theorem allHooks_load (hoffers : ∀ hook, hooks.Offers hook → P hook) (r : Registry)
    (text : String) (h : r.AllHooks P) : (r.load hooks text).1.AllHooks P :=
  (allHooks_loadSegments hoffers (numbered (splitDocuments text)) h).reindex

theorem allHooks_attach {name : String} {given : Option Hook} {d : NodeDefinition}
    (hgiven : ∀ hook ∈ given, P hook) (h : r.AllHooks P)
    (hattach : r.attach name given = .ok (r', d)) : r'.AllHooks P := by
  simp only [attach, bind_eq_ok_iff, pure_eq_ok_iff] at hattach
  obtain ⟨old, _, heq⟩ := hattach
  obtain ⟨rfl, _⟩ := Prod.mk.inj heq
  exact h.insert name hgiven

theorem allHooks_next (change : Change) (hchange : ∀ hook, change.Supplies hook → P hook)
    (h : r.AllHooks P) : (r.next change).AllHooks P := by
  cases change with
  | load hooks text => exact allHooks_load hchange r text h
  | interruptedLoad hooks text number => exact allHooks_loadSegments hchange _ h
  | loadFile hooks files p => exact holds_loadFile hooks (allHooks_load hchange) files p h
  | loadDirectory hooks files p => exact holds_loadFiles hooks (allHooks_load hchange) files _ h
  | loadAll hooks texts => exact holds_loadAll hooks (allHooks_load hchange) texts h
  | attach name given =>
      rw [next]
      split
      · rename_i hattach
        exact allHooks_attach hchange h hattach
      · exact h

/-- Whatever holds of the hooks that a history brings holds of the hooks of the registry. -/
theorem allHooks_after (history : List Change)
    (hhistory : ∀ change ∈ history, ∀ hook, change.Supplies hook → P hook) (h : r.AllHooks P) :
    (r.after history).AllHooks P := by
  induction history generalizing r with
  | nil => exact h
  | cons change rest ih =>
      obtain ⟨hchange, hrest⟩ := List.forall_mem_cons.mp hhistory
      exact ih hrest (allHooks_next change hchange h)

end Registry

end NodeGraph
