import Mathlib.Data.List.Nodup
import Mathlib.Data.List.Perm.Subperm
import NodeGraph.Store

/-!
# New ids

The source of ids is asked again as long as it draws an id that is taken. The texts given to it may
all be taken, but of the numbers after them one more is tried than ids are taken, and numbers have
different texts: an id that is free comes up before the tries do.
-/

namespace NodeGraph

/-! ## Numbers -/

theorem padded_injective {width m n : Nat} (h : padded width m = padded width n) : m = n := by
  unfold padded at h
  have hdigits := String.ofList_injective h
  have hvalue := congrArg (Nat.ofDigitChars 10 · 0) hdigits
  simpa only [Nat.ofDigitChars_append, Nat.ofDigitChars_replicate_zero, Nat.mul_zero,
    Nat.ofDigitChars_ten_toDigits] using hvalue

namespace Ids

variable {kind : String} {taken : List String}

/-- The id that a number becomes. -/
def ofNumber (kind : String) (n : Nat) : String := kind ++ "_" ++ padded size n

theorem ofNumber_injective {m n : Nat} (h : ofNumber kind m = ofNumber kind n) : m = n :=
  padded_injective (String.append_right_inj _ |>.mp h)

/-- From any number on, an id is free before there were more tries than ids are taken. -/
theorem exists_ofNumber_notMem (kind : String) (taken : List String) (first : Nat) :
    ∃ i ≤ taken.length, ofNumber kind (first + i) ∉ taken := by
  -- one more number than ids are taken would have to be among them
  by_contra hall
  have htried : (List.range (taken.length + 1)).map (fun i => ofNumber kind (first + i)) ⊆ taken := by
    intro id hid
    obtain ⟨i, hi, rfl⟩ := List.mem_map.mp hid
    by_contra hfree
    exact hall ⟨i, Nat.le_of_lt_succ (List.mem_range.mp hi), hfree⟩
  have hdistinct : ((List.range (taken.length + 1)).map
      (fun i => ofNumber kind (first + i))).Nodup := by
    refine List.nodup_range.map ?_
    intro i j heq
    exact Nat.add_left_cancel (ofNumber_injective heq)
  have hlength := (List.subperm_of_subset hdistinct htried).length_le
  rw [List.length_map, List.length_range] at hlength
  omega

/-! ## Tries -/

theorem fresh_succ (fuel : Nat) (ids : Ids) :
    fresh kind taken (fuel + 1) ids =
      if kind ++ "_" ++ ids.draw.1 ∈ taken then fresh kind taken fuel ids.draw.2
      else (kind ++ "_" ++ ids.draw.1, ids.draw.2) := by
  simp only [fresh, List.contains_iff_mem]

/-- With the texts used up, enough tries find a free number. -/
theorem fresh_numbers_notMem {fuel first : Nat}
    (h : ∃ i < fuel, ofNumber kind (first + i) ∉ taken) :
    (fresh kind taken fuel ⟨[], first⟩).1 ∉ taken := by
  induction fuel generalizing first with
  | zero =>
      obtain ⟨_, hi, _⟩ := h
      exact absurd hi (Nat.not_lt_zero _)
  | succ fuel ih =>
      rw [fresh_succ]
      by_cases htaken : kind ++ "_" ++ (draw ⟨[], first⟩).1 ∈ taken
      · rw [if_pos htaken]
        refine ih ?_
        obtain ⟨i, hi, hfree⟩ := h
        cases i with
        | zero => exact absurd htaken hfree
        | succ i =>
            have hsum : first + (i + 1) = first + 1 + i := by omega
            rw [hsum] at hfree
            exact ⟨i, Nat.lt_of_succ_lt_succ hi, hfree⟩
      · rwa [if_neg htaken]

/-- Of more tries than there are texts and taken ids, one finds a free id. -/
theorem fresh_notMem {given : List String} {next fuel : Nat}
    (h : given.length + taken.length < fuel) :
    (fresh kind taken fuel ⟨given, next⟩).1 ∉ taken := by
  induction given generalizing fuel with
  | nil =>
      obtain ⟨i, hi, hfree⟩ := exists_ofNumber_notMem kind taken next
      exact fresh_numbers_notMem ⟨i, by rw [List.length_nil] at h; omega, hfree⟩
  | cons s given ih =>
      cases fuel with
      | zero => exact absurd h (Nat.not_lt_zero _)
      | succ fuel =>
          rw [fresh_succ]
          by_cases htaken : kind ++ "_" ++ (draw ⟨s :: given, next⟩).1 ∈ taken
          · rw [if_pos htaken]
            rw [List.length_cons] at h
            exact ih (by omega)
          · rwa [if_neg htaken]

end Ids

/-! ## Workspaces -/

namespace Workspace

/-- The ids that are in use. -/
def taken (w : Workspace) : List String := w.store.nodes.keys ++ w.store.edges.keys

/-- The id that is handed out next, and the source of ids after it. -/
def fresh (w : Workspace) (kind : String) : String × Ids :=
  Ids.fresh kind w.taken (w.ids.given.length + w.taken.length + 1) w.ids

theorem fresh_notMem_nodes (w : Workspace) (kind : String) :
    (w.fresh kind).1 ∉ w.store.nodes.keys := by
  intro hmem
  exact Ids.fresh_notMem (Nat.lt_succ_self _) (List.mem_append_left w.store.edges.keys hmem)

theorem fresh_notMem_edges (w : Workspace) (kind : String) :
    (w.fresh kind).1 ∉ w.store.edges.keys := by
  intro hmem
  exact Ids.fresh_notMem (Nat.lt_succ_self _) (List.mem_append_right w.store.nodes.keys hmem)

end Workspace

end NodeGraph
