import NodeGraph.Proofs.Outcome
import NodeGraph.Proofs.Steps
import NodeGraph.Proofs.Store.Ids

/-!
# How edits end

An edit is taken apart into its steps by what a run of it says about them. Edits that only read, and
those that write last, are told apart because a failure of the latter leaves the store as it was.
-/

namespace NodeGraph.Edit

variable {α β : Type} {e : Edit α} {k : α → Edit β} {w w' : Workspace} {a : α} {b : β} {f : Fault}
  {x : Except Fault α}

/-! ## Runs of steps -/

theorem run_throw : (throw f : Edit α).run w = .error f w := rfl

theorem run_setStore (s : Store) : (setStore s).run w = .ok () ⟨s, w.ids⟩ := rfl

theorem run_newId (kind : String) :
    (newId kind).run w = .ok (w.fresh kind).1 ⟨w.store, (w.fresh kind).2⟩ := rfl

theorem run_orFail_eq_ok_iff :
    (orFail x).run w = .ok a w' ↔ x = .ok a ∧ w = w' := by
  cases x with
  | ok b => rw [orFail, run_pure_eq_ok_iff, Except.ok.injEq]
  | error f => simp [orFail, run_throw]

theorem run_orFail_eq_error_iff :
    (orFail x).run w = .error f w' ↔ x = .error f ∧ w = w' := by
  cases x with
  | ok b => simp [orFail]
  | error f => simp [orFail, run_throw]

/-! ## First steps -/

theorem run_store_bind {k : Store → Edit β} : (store >>= k).run w = (k w.store).run w := rfl

theorem run_setStore_bind {s : Store} {k : Unit → Edit β} :
    (setStore s >>= k).run w = (k ()).run ⟨s, w.ids⟩ := rfl

theorem run_newId_bind {kind : String} {k : String → Edit β} :
    (newId kind >>= k).run w = (k (w.fresh kind).1).run ⟨w.store, (w.fresh kind).2⟩ := rfl

theorem run_throw_bind : ((throw f : Edit α) >>= k).run w = .error f w := rfl

theorem run_orFail_bind_eq_ok_iff :
    (orFail x >>= k).run w = .ok b w' ↔ ∃ a, x = .ok a ∧ (k a).run w = .ok b w' := by
  cases x with
  | ok a => simp [orFail]
  | error f => simp [orFail, run_throw]

/-! ## Reading and writing -/

/-- The edit leaves the store as it is if it fails. -/
abbrev AllOrNothing (e : Edit α) : Prop := Steps.AllOrNothing Workspace.store e

/-- The edit leaves the store as it is, whether it succeeds or fails. -/
abbrev Reads (e : Edit α) : Prop := Steps.Reads Workspace.store e

theorem reads_pure (a : α) : Reads (pure a) := Steps.reads_pure a

theorem reads_throw (f : Fault) : Reads (throw f : Edit α) := Steps.reads_throw f

theorem reads_store : Reads store where
  ok h := by cases h; rfl
  error h := by cases h

theorem reads_newId (kind : String) : Reads (newId kind) where
  ok h := by cases h; rfl
  error h := by cases h

theorem reads_orFail (x : Except Fault α) : Reads (orFail x) where
  ok h := by rw [← (run_orFail_eq_ok_iff.mp h).2]
  error h := by rw [← (run_orFail_eq_error_iff.mp h).2]

/-- A query reads the store, and its answer may be a fault. -/
theorem reads_query (g : Store → Except Fault α) (b : β) :
    Reads (do
      let _ ← orFail (g (← store))
      return b) :=
  reads_store.bind fun _ => (reads_orFail _).bind fun _ => reads_pure b

theorem allOrNothing_setStore (s : Store) : AllOrNothing (setStore s) where
  error h := by
    rw [run_setStore] at h
    cases h

end NodeGraph.Edit
