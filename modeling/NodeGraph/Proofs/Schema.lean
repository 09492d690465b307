import Mathlib.Data.List.Forall2
import NodeGraph.Graph.Decode
import NodeGraph.Proofs.Wiring

/-!
# Reading by a schema

When a reader succeeds, and with what. A record is read field by field, and succeeds only if all of
them do.
-/

namespace NodeGraph

/-! ## Outcomes of readers -/

namespace Checked

variable {α β : Type} {x : Checked α} {a : α} {b : β}

theorem map_eq_good_iff {f : α → β} : x.map f = .good b ↔ ∃ a, x = .good a ∧ f a = b := by
  cases x <;> simp [map]

theorem apply_eq_good_iff {f : Checked (α → β)} :
    f.apply x = .good b ↔ ∃ g a, f = .good g ∧ x = .good a ∧ g a = b := by
  cases f <;> cases x <;> simp [apply]

@[simp] theorem under_eq_good_iff {step : Issue.Step} : x.under step = .good a ↔ x = .good a := by
  cases x <;> simp [under]

theorem all_eq_good_iff {cs : List (Checked α)} {xs : List α} :
    all cs = .good xs ↔ List.Forall₂ (fun c x => c = .good x) cs xs := by
  induction cs generalizing xs with
  | nil => rw [all, List.forall₂_nil_left_iff, good.injEq, eq_comm]
  | cons c cs ih =>
      rw [all, apply_eq_good_iff, List.forall₂_cons_left_iff]
      constructor
      · rintro ⟨_, more, hfirst, hmore, rfl⟩
        obtain ⟨x, hx, rfl⟩ := map_eq_good_iff.mp hfirst
        exact ⟨x, more, hx, ih.mp hmore, rfl⟩
      · rintro ⟨x, more, hx, hmore, rfl⟩
        exact ⟨_, more, map_eq_good_iff.mpr ⟨x, hx, rfl⟩, ih.mpr hmore, rfl⟩

theorem orFault_eq_ok_iff : x.orFault = .ok a ↔ x = .good a := by
  cases x <;> simp [orFault]

/-- Whether the reading succeeds with a value that passes the test. -/
def any (p : α → Bool) : Checked α → Bool
  | .good a => p a
  | _ => false

theorem any_eq_true_iff {p : α → Bool} : x.any p = true ↔ ∃ a, x = .good a ∧ p a = true := by
  cases x <;> simp [any]

/-! ### Readings that stop -/

@[simp] theorem map_eq_overflow_iff {f : α → β} : x.map f = .overflow ↔ x = .overflow := by
  cases x <;> simp [map]

@[simp] theorem apply_eq_overflow_iff {f : Checked (α → β)} :
    f.apply x = .overflow ↔ f = .overflow ∨ x = .overflow := by
  cases f <;> cases x <;> simp [apply]

theorem bind_eq_overflow_iff {f : α → Checked β} :
    x.bind f = .overflow ↔ x = .overflow ∨ ∃ a, x = .good a ∧ f a = .overflow := by
  cases x <;> simp [bind]

@[simp] theorem under_eq_overflow_iff {step : Issue.Step} :
    x.under step = .overflow ↔ x = .overflow := by
  cases x <;> simp [under]

@[simp] theorem issue_ne_overflow (kind : Issue.Kind) : (issue kind : Checked α) ≠ .overflow := by
  rintro ⟨⟩

theorem all_eq_overflow_iff {xs : List (Checked α)} : all xs = .overflow ↔ .overflow ∈ xs := by
  induction xs with
  | nil => simp [all]
  | cons x xs ih => rw [all, apply_eq_overflow_iff, map_eq_overflow_iff, ih, List.mem_cons, eq_comm]

end Checked

/-! ## Fields of records -/

namespace Schema

variable {α : Type} {read : Value → Checked α} {pairs : List (Value × Value)} {name : String}
  {a : α}

theorem required_eq_good_iff :
    required [name] read pairs = .good a ↔
      ∃ v, Value.field? name pairs = some v ∧ read v = .good a := by
  cases hfield : Value.field? name pairs <;> simp [required, found?, hfield]

/-- A field that may be left out has the value for its absence or one that was read. -/
theorem of_defaulted_good {names : List String} {missing : α}
    (h : defaulted names missing read pairs = .good a) : a = missing ∨ ∃ v, read v = .good a := by
  unfold defaulted at h
  split at h
  · rename_i v _
    exact .inr ⟨v, Checked.under_eq_good_iff.mp h⟩
  · exact .inl (Checked.good.inj h).symm

section

variable {names : List String} {missing : α}

/-- Only what is under a name of a field can stop the reading. -/
theorem found_eq_overflow_iff {absent : Checked α} (habsent : absent ≠ .overflow) :
    (match found? names pairs with
      | some (name, v) => (read v).under (.name name)
      | none => absent) = .overflow ↔
      ∃ name v, found? names pairs = some (name, v) ∧ read v = .overflow := by
  cases found? names pairs with
  | none =>
      constructor
      · intro h
        exact absurd h habsent
      · rintro ⟨_, _, h, _⟩
        cases h
  | some found =>
      constructor
      · intro h
        exact ⟨found.1, found.2, rfl, Checked.under_eq_overflow_iff.mp h⟩
      · rintro ⟨name, v, hfound, h⟩
        obtain rfl := Option.some.inj hfound
        exact Checked.under_eq_overflow_iff.mpr h

theorem required_eq_overflow_iff : required names read pairs = .overflow ↔
    ∃ name v, found? names pairs = some (name, v) ∧ read v = .overflow :=
  found_eq_overflow_iff (by rintro ⟨⟩)

theorem defaulted_eq_overflow_iff : defaulted names missing read pairs = .overflow ↔
    ∃ name v, found? names pairs = some (name, v) ∧ read v = .overflow :=
  found_eq_overflow_iff (by rintro ⟨⟩)

end

theorem found?_singleton_eq_some_iff {other : String} {v : Value} :
    found? [name] pairs = some (other, v) ↔ other = name ∧ Value.field? name pairs = some v := by
  cases hfield : Value.field? name pairs <;> simp [found?, hfield, eq_comm]

/-- A text comes as it is, or as its bytes. -/
theorem text_eq_good_iff {v : Value} {s : String} :
    text v = .good s ↔ v = .text s ∨ ∃ bs, v = .bytes bs ∧ utf8? bs = some s := by
  cases v with
  | bytes bs =>
      rw [text]
      split <;> simp_all [Checked.issue]
  | text t => simp [text]
  | _ => simp [text, Checked.issue]

theorem text_eq_good_of_text {s t : String} (h : text (.text s) = .good t) : s = t :=
  Checked.good.inj h

end Schema

open Schema

/-- An edge is made of its parts exactly if they all are texts or the bytes of texts. -/
theorem Edge.decode_parts_eq_good_iff {id source output target input : Value} {e : Edge} :
    Edge.decode (.map [(.text "id", id), (.text "source", source), (.text "source_output", output),
      (.text "target", target), (.text "target_input", input)]) = .good e ↔
      text id = .good e.id ∧ text source = .good e.source ∧
        (∃ s, text output = .good s ∧ .text s = e.sourceOutput) ∧ text target = .good e.target ∧
        ∃ s, text input = .good s ∧ .text s = e.targetInput := by
  have hrecord : ∀ pairs (f : List (Value × Value) → Checked Edge),
      (record (.map pairs)).bind f = f pairs := fun _ _ => rfl
  simp only [Edge.decode, hrecord, Checked.apply_eq_good_iff, Checked.map_eq_good_iff,
    required_eq_good_iff]
  simp only [Value.field?, Value.lookup, List.find?, Value.eqv, beq_self_eq_true, String.reduceBEq,
    Option.map_some, Option.some.injEq, Checked.good.injEq, exists_eq_left']
  constructor
  · rintro ⟨_, _, ⟨_, _, ⟨_, _, ⟨_, _, ⟨_, i, rfl, hid, rfl⟩, hsource, rfl⟩, houtput, rfl⟩, htarget,
      rfl⟩, hinput, rfl⟩
    exact ⟨hid, hsource, houtput, htarget, hinput⟩
  · rintro ⟨hid, hsource, houtput, htarget, hinput⟩
    exact ⟨_, _, ⟨_, _, ⟨_, _, ⟨_, _, ⟨_, _, rfl, hid, rfl⟩, hsource, rfl⟩, houtput, rfl⟩, htarget,
      rfl⟩, hinput, rfl⟩

end NodeGraph
