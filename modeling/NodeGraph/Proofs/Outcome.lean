import Mathlib.Data.List.Forall2
import NodeGraph.Fault

/-!
# Outcomes

How an operation of several steps that may each fail comes to its value or its fault.
-/

namespace NodeGraph

section

variable {ε α β : Type} {x : Except ε α} {f : α → Except ε β} {b : β} {fault : ε}

theorem bind_eq_ok_iff : (x >>= f) = .ok b ↔ ∃ a, x = .ok a ∧ f a = .ok b := by
  cases x with
  | error e =>
      constructor
      · intro h
        cases h
      · rintro ⟨_, h, _⟩
        cases h
  | ok a =>
      constructor
      · intro h
        exact ⟨a, rfl, h⟩
      · rintro ⟨_, ha, h⟩
        cases ha
        exact h

theorem bind_eq_error_iff :
    (x >>= f) = .error fault ↔ x = .error fault ∨ ∃ a, x = .ok a ∧ f a = .error fault := by
  cases x with
  | error e =>
      constructor
      · intro h
        exact .inl (congrArg _ (Except.error.inj h))
      · rintro (h | ⟨_, h, _⟩)
        · exact congrArg _ (Except.error.inj h)
        · cases h
  | ok a =>
      constructor
      · intro h
        exact .inr ⟨a, rfl, h⟩
      · rintro (h | ⟨_, ha, h⟩)
        · cases h
        · cases ha
          exact h

end

variable {α β : Type} {x : Except Fault α} {f : α → Except Fault β} {b : β} {fault : Fault}

theorem map_eq_ok_iff {g : α → β} : x.map g = .ok b ↔ ∃ a, x = .ok a ∧ g a = b := by
  cases x with
  | error e =>
      constructor
      · intro h
        cases h
      · rintro ⟨_, h, _⟩
        cases h
  | ok a =>
      constructor
      · intro h
        exact ⟨a, rfl, Except.ok.inj h⟩
      · rintro ⟨_, ha, rfl⟩
        cases ha
        rfl

theorem map_eq_error_iff {g : α → β} : x.map g = .error fault ↔ x = .error fault := by
  cases x with
  | error e =>
      constructor
      · intro h
        exact congrArg _ (Except.error.inj h)
      · intro h
        exact congrArg _ (Except.error.inj h)
  | ok a =>
      constructor
      · intro h
        cases h
      · intro h
        cases h

@[simp] theorem pure_eq_ok_iff {a : β} : (pure a : Except Fault β) = .ok b ↔ a = b :=
  ⟨Except.ok.inj, congrArg _⟩

instance decidableEqOk [DecidableEq α] (a : α) : (x : Except Fault α) → Decidable (x = .ok a)
  | .ok b => decidable_of_iff (b = a) ⟨congrArg _, Except.ok.inj⟩
  | .error _ => isFalse (fun h => by cases h)

theorem exists_ok_iff : (∃ a, x = .ok a) ↔ ∀ fault, x ≠ .error fault := by
  cases x with
  | error fault =>
      constructor
      · rintro ⟨_, h⟩
        cases h
      · intro h
        exact absurd rfl (h fault)
  | ok a =>
      constructor
      · rintro _ fault h
        cases h
      · intro _
        exact ⟨a, rfl⟩

theorem exists_bind_ok_iff : (∃ b, (x >>= f) = .ok b) ↔ ∃ a, x = .ok a ∧ ∃ b, f a = .ok b := by
  constructor
  · rintro ⟨b, h⟩
    obtain ⟨a, ha, hb⟩ := bind_eq_ok_iff.mp h
    exact ⟨a, ha, b, hb⟩
  · rintro ⟨a, ha, b, hb⟩
    exact ⟨b, bind_eq_ok_iff.mpr ⟨a, ha, hb⟩⟩

/-- A list of steps comes to the list of their values. -/
theorem mapM_eq_ok_iff {g : α → Except Fault β} {xs : List α} {ys : List β} :
    xs.mapM g = .ok ys ↔ List.Forall₂ (fun a b => g a = .ok b) xs ys := by
  induction xs generalizing ys with
  | nil =>
      rw [List.mapM_nil, pure_eq_ok_iff, List.forall₂_nil_left_iff]
      exact eq_comm
  | cons a xs ih =>
      simp only [List.mapM_cons, bind_eq_ok_iff, pure_eq_ok_iff, ih, List.forall₂_cons_left_iff]
      constructor
      · rintro ⟨b, hb, bs, hbs, rfl⟩
        exact ⟨b, bs, hb, hbs, rfl⟩
      · rintro ⟨b, bs, hb, hbs, rfl⟩
        exact ⟨b, hb, bs, hbs, rfl⟩

/-- A list of steps fails with the fault of one of them. -/
theorem exists_of_mapM_eq_error {g : α → Except Fault β} {xs : List α}
    (h : xs.mapM g = .error fault) : ∃ a ∈ xs, g a = .error fault := by
  induction xs with
  | nil => cases h
  | cons a xs ih =>
      rw [List.mapM_cons] at h
      rcases bind_eq_error_iff.mp h with ha | ⟨b, _, hrest⟩
      · exact ⟨a, List.mem_cons_self, ha⟩
      · rcases bind_eq_error_iff.mp hrest with hxs | ⟨_, _, hpure⟩
        · obtain ⟨x, hx, hfault⟩ := ih hxs
          exact ⟨x, List.mem_cons_of_mem _ hx, hfault⟩
        · cases hpure

/-! ## Lists that are related item by item -/

section

variable {R : α → β → Prop} {xs : List α} {ys : List β}

theorem exists_right_of_forall₂ (h : List.Forall₂ R xs ys) {a : α} (ha : a ∈ xs) :
    ∃ b ∈ ys, R a b := by
  induction h with
  | nil => cases ha
  | cons hfirst _ ih =>
      rcases List.mem_cons.mp ha with rfl | ha
      · exact ⟨_, List.mem_cons_self, hfirst⟩
      · obtain ⟨b, hb, hrelated⟩ := ih ha
        exact ⟨b, List.mem_cons_of_mem _ hb, hrelated⟩

theorem exists_left_of_forall₂ (h : List.Forall₂ R xs ys) {b : β} (hb : b ∈ ys) :
    ∃ a ∈ xs, R a b := by
  induction h with
  | nil => cases hb
  | cons hfirst _ ih =>
      rcases List.mem_cons.mp hb with rfl | hb
      · exact ⟨_, List.mem_cons_self, hfirst⟩
      · obtain ⟨a, ha, hrelated⟩ := ih hb
        exact ⟨a, List.mem_cons_of_mem _ ha, hrelated⟩

/-- What is related to an item stands at the same place. -/
theorem exists_split_of_forall₂ {before after : List α} {a : α}
    (h : List.Forall₂ R (before ++ a :: after) ys) :
    ∃ front b back, ys = front ++ b :: back ∧ front.length = before.length ∧ R a b ∧
      List.Forall₂ R after back := by
  induction before generalizing ys with
  | nil =>
      obtain ⟨b, back, hrelated, hback, rfl⟩ := List.forall₂_cons_left_iff.mp h
      exact ⟨[], b, back, rfl, rfl, hrelated, hback⟩
  | cons first before ih =>
      obtain ⟨c, rest, _, hrest, rfl⟩ := List.forall₂_cons_left_iff.mp h
      obtain ⟨front, b, back, rfl, hlength, hrelated, hback⟩ := ih hrest
      exact ⟨c :: front, b, back, rfl, congrArg Nat.succ hlength, hrelated, hback⟩

end

/-! ## Outcomes that correspond -/

/-- Both outcomes are values, which are related, or both are faults. -/
inductive Corresponds (R : α → β → Prop) : Except Fault α → Except Fault β → Prop where
  | ok {a : α} {b : β} (h : R a b) : Corresponds R (.ok a) (.ok b)
  | error (f g : Fault) : Corresponds R (.error f) (.error g)

namespace Corresponds

variable {γ δ : Type} {R : α → β → Prop} {S : γ → δ → Prop} {x : Except Fault α} {y : Except Fault β}

theorem refl {R : α → α → Prop} (h : ∀ a, R a a) (x : Except Fault α) : Corresponds R x x := by
  cases x with
  | ok a => exact .ok (h a)
  | error f => exact .error f f

theorem bind {f : α → Except Fault γ} {g : β → Except Fault δ} (h : Corresponds R x y)
    (hnext : ∀ a b, R a b → Corresponds S (f a) (g b)) : Corresponds S (x >>= f) (y >>= g) := by
  cases h with
  | ok h => exact hnext _ _ h
  | error f g => exact .error f g

theorem trans {R : α → α → Prop} (hR : ∀ a b c, R a b → R b c → R a c)
    {x y z : Except Fault α} (h : Corresponds R x y) (h' : Corresponds R y z) :
    Corresponds R x z := by
  cases h with
  | ok h =>
      cases h' with
      | ok h' => exact .ok (hR _ _ _ h h')
  | error f g =>
      cases h' with
      | error _ g' => exact .error f g'

end Corresponds

/-! ## Steps without a fault -/

section

variable {g : α → Option β} {xs : List α} {ys : List β}

theorem mapM_eq_some_iff : xs.mapM g = some ys ↔ List.Forall₂ (fun a b => g a = some b) xs ys := by
  induction xs generalizing ys with
  | nil =>
      rw [List.mapM_nil, List.forall₂_nil_left_iff]
      exact ⟨fun h => (Option.some.inj h).symm, fun h => congrArg some h.symm⟩
  | cons a xs ih =>
      rw [List.mapM_cons, List.forall₂_cons_left_iff]
      constructor
      · intro h
        obtain ⟨b, hb, h⟩ := Option.bind_eq_some_iff.mp h
        obtain ⟨bs, hbs, h⟩ := Option.bind_eq_some_iff.mp h
        exact ⟨b, bs, hb, ih.mp hbs, (Option.some.inj h).symm⟩
      · rintro ⟨b, bs, hb, hbs, rfl⟩
        rw [hb, ih.mpr hbs]
        rfl

/-- Every step has its value in the list. -/
theorem exists_value_of_mapM (h : xs.mapM g = some ys) {a : α} (ha : a ∈ xs) :
    ∃ b ∈ ys, g a = some b :=
  exists_right_of_forall₂ (mapM_eq_some_iff.mp h) ha

/-- Every value in the list is that of a step. -/
theorem exists_step_of_mapM (h : xs.mapM g = some ys) {b : β} (hb : b ∈ ys) :
    ∃ a ∈ xs, g a = some b :=
  exists_left_of_forall₂ (mapM_eq_some_iff.mp h) hb

end

end NodeGraph
