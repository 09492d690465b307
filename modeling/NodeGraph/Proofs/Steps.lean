import Mathlib.Logic.Basic

/-!
# Runs of steps

A program that works on a state is taken apart into its steps by what a run of it says about them.
Of a part of the state that is watched, some steps only read it, and some leave it as it was if they
fail: a step that only reads may come before one of these, and nothing that can fail may come after
one.
-/

namespace NodeGraph

variable {ε σ τ α β γ : Type} {x : EStateM ε σ α} {k : α → EStateM ε σ β} {s s' : σ} {a : α} {b : β}
  {e : ε}

theorem run_bind_eq_ok_iff :
    (x >>= k).run s = .ok b s' ↔ ∃ a s₁, x.run s = .ok a s₁ ∧ (k a).run s₁ = .ok b s' := by
  rw [EStateM.run_bind]
  cases x.run s <;> simp [and_assoc]

theorem run_bind_of_ok {s₁ : σ} (h : x.run s = .ok a s₁) : (x >>= k).run s = (k a).run s₁ := by
  rw [EStateM.run_bind, h]

theorem run_bind_eq_error_iff :
    (x >>= k).run s = .error e s' ↔
      x.run s = .error e s' ∨ ∃ a s₁, x.run s = .ok a s₁ ∧ (k a).run s₁ = .error e s' := by
  rw [EStateM.run_bind]
  cases x.run s <;> simp [and_assoc]

theorem run_pure_eq_ok_iff {c : α} :
    (pure a : EStateM ε σ α).run s = .ok c s' ↔ a = c ∧ s = s' := by
  rw [EStateM.run_pure, EStateM.Result.ok.injEq]

theorem run_bind_pure_eq_ok_iff {g : α → β} :
    (x >>= fun a => pure (g a)).run s = .ok b s' ↔ ∃ a, x.run s = .ok a s' ∧ g a = b := by
  rw [run_bind_eq_ok_iff]
  constructor
  · rintro ⟨a, s₁, hfirst, hrest⟩
    obtain ⟨hvalue, rfl⟩ := run_pure_eq_ok_iff.mp hrest
    exact ⟨a, hfirst, hvalue⟩
  · rintro ⟨a, hfirst, hvalue⟩
    exact ⟨a, s', hfirst, run_pure_eq_ok_iff.mpr ⟨hvalue, rfl⟩⟩

namespace Steps

variable {view : σ → τ}

/-- The steps leave what is watched as it is if they fail. -/
structure AllOrNothing (view : σ → τ) (x : EStateM ε σ α) : Prop where
  error : ∀ {s e s'}, x.run s = .error e s' → view s' = view s

/-- The steps leave what is watched as it is, whether they succeed or fail. -/
structure Reads (view : σ → τ) (x : EStateM ε σ α) : Prop extends AllOrNothing view x where
  ok : ∀ {s a s'}, x.run s = .ok a s' → view s' = view s

theorem reads_pure (a : α) : Reads view (pure a : EStateM ε σ α) where
  ok h := by rw [← (run_pure_eq_ok_iff.mp h).2]
  error h := by cases h

theorem reads_throw (e : ε) : Reads view (throw e : EStateM ε σ α) where
  ok h := by cases h
  error h := by cases h; rfl

theorem Reads.bind (hx : Reads view x) (hk : ∀ a, Reads view (k a)) : Reads view (x >>= k) where
  ok h := by
    obtain ⟨a, s₁, hfirst, hrest⟩ := run_bind_eq_ok_iff.mp h
    rw [(hk a).ok hrest, hx.ok hfirst]
  error h := by
    rcases run_bind_eq_error_iff.mp h with hfirst | ⟨a, s₁, hfirst, hrest⟩
    · exact hx.error hfirst
    · rw [(hk a).error hrest, hx.ok hfirst]

/-- A step that only reads may come before one that leaves nothing half done. -/
theorem Reads.bind_allOrNothing (hx : Reads view x) (hk : ∀ a, AllOrNothing view (k a)) :
    AllOrNothing view (x >>= k) where
  error h := by
    rcases run_bind_eq_error_iff.mp h with hfirst | ⟨a, s₁, hfirst, hrest⟩
    · exact hx.error hfirst
    · rw [(hk a).error hrest, hx.ok hfirst]

/-- After the last step that can fail, a value may still be returned. -/
theorem AllOrNothing.bind_pure (hx : AllOrNothing view x) (g : α → β) :
    AllOrNothing view (x >>= fun a => pure (g a)) where
  error h := by
    rcases run_bind_eq_error_iff.mp h with hfirst | ⟨a, s₁, _, hrest⟩
    · exact hx.error hfirst
    · cases hrest

/-! ## Steps over lists -/

theorem Reads.foldlM {f : β → γ → EStateM ε σ β} (hf : ∀ b c, Reads view (f b c)) (cs : List γ)
    (b : β) : Reads view (cs.foldlM f b) := by
  induction cs generalizing b with
  | nil => exact reads_pure b
  | cons c cs ih =>
      rw [List.foldlM_cons]
      exact (hf b c).bind ih

theorem Reads.mapM {f : γ → EStateM ε σ β} (hf : ∀ c, Reads view (f c)) (cs : List γ) :
    Reads view (cs.mapM f) := by
  induction cs with
  | nil => exact reads_pure []
  | cons c cs ih =>
      rw [List.mapM_cons]
      exact (hf c).bind fun _ => ih.bind fun _ => reads_pure _

end Steps

end NodeGraph
