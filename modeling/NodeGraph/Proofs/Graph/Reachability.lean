import Mathlib.Data.List.Perm.Subperm
import NodeGraph.Graph.Cycle
import NodeGraph.Proofs.Graph.Basic

/-!
# Reachability

The searches for the vertices before and behind a vertex are exact: they find the ends of the paths
of arcs and nothing else. A vertex is reported as cyclic exactly when a path of at least one arc
leads back to it.

The search adds one round of neighbours at a time. It stops at a closed list at the latest when the
rounds are as many as the vertices, since each round but the last adds a vertex.
-/

namespace NodeGraph.Graph

open Relation

/-! ## The search -/

section Closure

variable {next : String → List String} {fuel : Nat} {seen : List String}

/-- The vertices that one round of the search adds. -/
def frontier (next : String → List String) (seen : List String) : List String :=
  ((seen.flatMap next).filter (!seen.contains ·)).eraseDups

theorem closure_succ :
    closure next (fuel + 1) seen =
      if (frontier next seen).isEmpty then seen
      else closure next fuel (seen ++ frontier next seen) := rfl

theorem mem_frontier {w : String} :
    w ∈ frontier next seen ↔ (∃ v ∈ seen, w ∈ next v) ∧ w ∉ seen := by
  simp [frontier, List.mem_eraseDups]

theorem nodup_append_frontier (h : seen.Nodup) : (seen ++ frontier next seen).Nodup := by
  refine List.nodup_append.mpr ⟨h, nodup_eraseDups _, ?_⟩
  rintro v hv w hw rfl
  exact (mem_frontier.mp hw).2 hv

theorem subset_closure : ∀ (fuel : Nat) (seen : List String), seen ⊆ closure next fuel seen
  | 0, _ => List.Subset.refl _
  | fuel + 1, seen => by
      rw [closure_succ]
      split
      · exact List.Subset.refl _
      · exact List.Subset.trans (List.subset_append_left _ _) (subset_closure fuel _)

theorem nodup_closure : ∀ (fuel : Nat) {seen : List String}, seen.Nodup →
    (closure next fuel seen).Nodup
  | 0, _, h => h
  | fuel + 1, seen, h => by
      rw [closure_succ]
      split
      · exact h
      · exact nodup_closure fuel (nodup_append_frontier h)

/-- Nothing is found that no path leads to. -/
theorem reach_of_mem_closure {w : String} (h : w ∈ closure next fuel seen) :
    ∃ v ∈ seen, ReflTransGen (fun a b => b ∈ next a) v w := by
  induction fuel generalizing seen with
  | zero => exact ⟨w, h, .refl⟩
  | succ fuel ih =>
      rw [closure_succ] at h
      split at h
      · exact ⟨w, h, .refl⟩
      · obtain ⟨v, hv, hpath⟩ := ih h
        rcases List.mem_append.mp hv with hv | hv
        · exact ⟨v, hv, hpath⟩
        · obtain ⟨⟨u, hu, huv⟩, _⟩ := mem_frontier.mp hv
          exact ⟨u, hu, hpath.head huv⟩

/-- With a round for each vertex that may still be added, the search ends at a closed list. -/
theorem closure_closed (range : List String) (hseen : seen ⊆ range)
    (hnext : ∀ v, next v ⊆ range) (hnodup : seen.Nodup)
    (hfuel : range.length ≤ fuel + seen.length) :
    ∀ v ∈ closure next fuel seen, next v ⊆ closure next fuel seen := by
  induction fuel generalizing seen with
  | zero =>
      -- as many vertices as the range has are found, so these are all of it
      have hperm := (List.subperm_of_subset hnodup hseen).perm_of_length_le (by omega)
      intro v _ w hw
      exact hperm.mem_iff.mpr (hnext v hw)
  | succ fuel ih =>
      rw [closure_succ]
      split
      · rename_i hempty
        intro v hv w hw
        by_contra hnot
        have hmem : w ∈ frontier next seen := mem_frontier.mpr ⟨⟨v, hv, hw⟩, hnot⟩
        rw [List.isEmpty_iff.mp hempty] at hmem
        exact List.not_mem_nil hmem
      · rename_i hadded
        -- a round is spent, and at least one vertex is found by it
        have hsub : seen ++ frontier next seen ⊆ range := by
          refine List.append_subset.mpr ⟨hseen, ?_⟩
          intro w hw
          obtain ⟨⟨v, _, hvw⟩, _⟩ := mem_frontier.mp hw
          exact hnext v hvw
        have hpos : 0 < (frontier next seen).length := by
          rw [List.length_pos_iff]
          simpa using hadded
        refine ih hsub (nodup_append_frontier hnodup) ?_
        rw [List.length_append]
        omega

/-- The search finds exactly the ends of the paths from where it starts. -/
theorem mem_closure_iff (range : List String) {w : String} (hseen : seen ⊆ range)
    (hnext : ∀ v, next v ⊆ range) (hnodup : seen.Nodup)
    (hfuel : range.length ≤ fuel + seen.length) :
    w ∈ closure next fuel seen ↔
      ∃ v ∈ seen, ReflTransGen (fun a b => b ∈ next a) v w := by
  refine ⟨reach_of_mem_closure, ?_⟩
  rintro ⟨v, hv, hpath⟩
  induction hpath with
  | refl => exact subset_closure _ _ hv
  | tail _ hstep ih => exact closure_closed range hseen hnext hnodup hfuel _ ih hstep

end Closure

/-! ## The vertices before and behind a vertex -/

variable {g : Graph} {v w : String}

theorem mem_descendants : w ∈ g.descendants v ↔ ReflTransGen g.Arc v w := by
  have hnext : ∀ u, g.successors u ⊆ v :: g.vertices := fun u x hx =>
    List.mem_cons_of_mem _ (mem_successors_iff_arc.mp hx).target_mem
  unfold descendants
  rw [mem_closure_iff (v :: g.vertices) (by simp) hnext (by simp) (by simp)]
  simp only [List.mem_singleton, exists_eq_left, mem_successors_iff_arc]

theorem mem_ancestors : w ∈ g.ancestors v ↔ ReflTransGen g.Arc w v := by
  have hnext : ∀ u, g.predecessors u ⊆ v :: g.vertices := fun u x hx =>
    List.mem_cons_of_mem _ (mem_predecessors_iff_arc.mp hx).source_mem
  unfold ancestors
  rw [mem_closure_iff (v :: g.vertices) (by simp) hnext (by simp) (by simp)]
  simp only [List.mem_singleton, exists_eq_left, mem_predecessors_iff_arc]
  rw [← reflTransGen_swap]

/-! ## Cycles -/

/-- Whether some path leads from `v` back to `v`. -/
def isCyclic (g : Graph) (v : String) : Bool :=
  (g.successors v).contains v || 1 < (g.component v).length

theorem mem_component :
    w ∈ g.component v ↔ ReflTransGen g.Arc v w ∧ ReflTransGen g.Arc w v := by
  simp [component, mem_descendants, mem_ancestors]

theorem self_mem_component (g : Graph) (v : String) : v ∈ g.component v :=
  mem_component.mpr ⟨.refl, .refl⟩

theorem nodup_component (g : Graph) (v : String) : (g.component v).Nodup :=
  (nodup_closure _ (by simp)).filter _

/-- A component of more than one vertex has one besides any given vertex. -/
theorem one_lt_length_component :
    1 < (g.component v).length ↔ ∃ w ∈ g.component v, w ≠ v := by
  have hv := self_mem_component g v
  constructor
  · intro hlen
    by_contra hnone
    push Not at hnone
    have hsub : g.component v ⊆ [v] := fun w hw => by simpa using hnone w hw
    have hle := (List.subperm_of_subset (nodup_component g v) hsub).length_le
    simp only [List.length_singleton] at hle
    omega
  · rintro ⟨w, hw, hne⟩
    have hsub : [v, w] ⊆ g.component v := by simp [hv, hw]
    have hnodup : [v, w].Nodup := by simp [Ne.symm hne]
    exact (List.subperm_of_subset hnodup hsub).length_le

theorem isCyclic_iff : g.isCyclic v = true ↔ TransGen g.Arc v v := by
  simp only [isCyclic, Bool.or_eq_true, List.contains_iff_mem, decide_eq_true_eq,
    one_lt_length_component, mem_successors_iff_arc, mem_component]
  constructor
  · rintro (hloop | ⟨w, ⟨hto, hback⟩, hne⟩)
    · exact .single hloop
    · exact ((reflTransGen_iff_eq_or_transGen.mp hto).resolve_left hne).trans_left hback
  · intro hcycle
    -- the first arc of the path is a loop, or leads to another vertex of the component
    obtain ⟨w, hstep, hback⟩ := TransGen.head'_iff.mp hcycle
    by_cases hne : w = v
    · exact .inl (hne ▸ hstep)
    · exact .inr ⟨w, ⟨.single hstep, hback⟩, hne⟩

end NodeGraph.Graph
