import Mathlib.Data.List.Chain
import NodeGraph.Proofs.Graph.Reachability

/-!
# Cycles that are shown

The cycle shown for a vertex on a closed path is one: it leads along arcs, meets no vertex twice
before it is back where it starts, and stays in the vertex's component. All vertices of a component
are shown the same one.

The search follows one arc after the other inside the component. It cannot get stuck, since an arc
leads from every vertex of the component to another one of it, and it comes back to its path at the
latest when the path has all of the component.
-/

namespace NodeGraph.Graph

open Relation

/-- A path along arcs from a vertex back to it that meets no vertex twice on the way. -/
structure IsCycle (g : Graph) (path : List String) : Prop where
  closed : ∃ v between, path = v :: (between ++ [v]) ∧ (v :: between).Nodup
  arcs : path.IsChain g.Arc

/-! ## Following one step after the other -/

/-- A path along `R` from a vertex back to it that meets no vertex twice on the way. -/
structure IsLoop (R : String → String → Prop) (path : List String) : Prop where
  closed : ∃ v between, path = v :: (between ++ [v]) ∧ (v :: between).Nodup
  steps : path.IsChain R

section Follow

variable {R : String → String → Prop} {next : String → Option String} {inside path : List String}
  {v w : String} {fuel : Nat}

/-- The part of a path from one of its vertices on, closed by a step from its last vertex. The path
is given with its last vertex first. -/
theorem isLoop_takeWhile (hnodup : (v :: path).Nodup)
    (hsteps : (v :: path).IsChain fun a b => R b a) (hw : w ∈ v :: path) (hstep : R v w) :
    IsLoop R (w :: (((v :: path).takeWhile (· ≠ w)).reverse ++ [w])) := by
  obtain ⟨front, back, hsplit, hfront⟩ := List.eq_append_cons_of_mem hw
  have htake : (v :: path).takeWhile (· ≠ w) = front := by
    rw [hsplit, List.takeWhile_append_of_pos, List.takeWhile_cons_of_neg, List.append_nil]
    · simp
    · intro a ha
      simpa using fun heq : a = w => hfront (heq ▸ ha)
  have hpart : (w :: front.reverse).reverse = front ++ [w] := by simp
  have hprefix : (front ++ [w]) <+: v :: path := ⟨back, by rw [hsplit, List.append_assoc]; rfl⟩
  rw [htake]
  refine ⟨⟨w, front.reverse, rfl, ?_⟩, ?_⟩
  · rw [← List.nodup_reverse, hpart]
    exact hnodup.sublist hprefix.sublist
  · have hchain : (w :: front.reverse).IsChain R := by
      rw [← List.reverse_reverse (w :: front.reverse), hpart, List.isChain_reverse]
      exact hsteps.infix hprefix.isInfix
    rw [← List.cons_append, List.isChain_append]
    refine ⟨hchain, List.isChain_singleton w, ?_⟩
    intro a ha b hb
    obtain rfl : w = b := Option.some.inj hb
    -- the last vertex of the path is where it was left off
    have hlast : (w :: front.reverse).getLast? = some v := by
      rw [← List.head?_reverse, hpart]
      cases front with
      | nil => exact congrArg List.head? hsplit.symm
      | cons x front => exact congrArg List.head? hsplit.symm
    obtain rfl : v = a := Option.some.inj (hlast.symm.trans ha)
    exact hstep

/-- Following does not leave what no step leads out of. -/
theorem forall_mem_follow {P : String → Prop} (hnext : ∀ v w, P v → next v = some w → P w)
    (hpath : ∀ v ∈ path, P v) : ∀ v ∈ follow next fuel path, P v := by
  induction fuel generalizing path with
  | zero => exact hpath
  | succ fuel ih =>
      cases path with
      | nil => exact fun v hv => nomatch hv
      | cons v path =>
          cases hstep : next v with
          | none =>
              simp only [follow, hstep]
              exact hpath
          | some w =>
              have hw : P w := hnext v w (hpath v List.mem_cons_self) hstep
              simp only [follow, hstep]
              split
              · intro a ha
                rcases List.mem_cons.mp ha with rfl | ha
                · exact hw
                rcases List.mem_append.mp ha with ha | ha
                · exact hpath a ((List.takeWhile_prefix _).subset (List.mem_reverse.mp ha))
                · exact List.mem_singleton.mp ha ▸ hw
              · exact ih (List.forall_mem_cons.mpr ⟨hw, hpath⟩)

theorem isLoop_follow (hnext : ∀ v ∈ inside, ∃ w, next v = some w ∧ w ∈ inside)
    (hpath : path ≠ []) (hinside : path ⊆ inside) (hnodup : path.Nodup)
    (hsteps : path.IsChain fun a b => next b = some a)
    (hfuel : inside.length < fuel + path.length) :
    IsLoop (fun a b => next a = some b) (follow next fuel path) := by
  induction fuel generalizing path with
  | zero =>
      have hle := (List.subperm_of_subset hnodup hinside).length_le
      omega
  | succ fuel ih =>
      obtain ⟨v, path, rfl⟩ := List.exists_cons_of_ne_nil hpath
      obtain ⟨w, hstep, hw⟩ := hnext v (hinside List.mem_cons_self)
      simp only [follow, hstep]
      split
      · rename_i hmet
        exact isLoop_takeWhile hnodup hsteps hmet hstep
      · rename_i hnew
        refine ih (List.cons_ne_nil _ _) (List.cons_subset.mpr ⟨hw, hinside⟩)
          (List.nodup_cons.mpr ⟨hnew, hnodup⟩) (List.isChain_cons_cons.mpr ⟨hstep, hsteps⟩) ?_
        rw [List.length_cons]
        omega

end Follow

/-! ## Cycles of a component -/

/-- The cycle shown for the component of a vertex. -/
def cycleOf (g : Graph) (v : String) : List String :=
  let component := g.component v
  match g.ids.find? (component.contains ·) with
  | none => []
  | some start => g.cycleFrom component start

variable {g : Graph} {v w : String}

/-- Paths lead from `v` to `w` and back. -/
def Joined (g : Graph) (v w : String) : Prop :=
  ReflTransGen g.Arc v w ∧ ReflTransGen g.Arc w v

theorem Joined.symm (h : g.Joined v w) : g.Joined w v := ⟨h.2, h.1⟩

theorem Joined.trans {u : String} (h : g.Joined u v) (h' : g.Joined v w) : g.Joined u w :=
  ⟨h.1.trans h'.1, h'.2.trans h.2⟩

/-- What lies on a closed path is joined to vertices on closed paths only. -/
theorem Joined.transGen (h : g.Joined v w) (hcycle : TransGen g.Arc v v) : TransGen g.Arc w w :=
  (TransGen.trans_right h.2 hcycle).trans_left h.1

theorem isCyclic_eq_of_joined (h : g.Joined v w) : g.isCyclic w = g.isCyclic v := by
  rw [Bool.eq_iff_iff, isCyclic_iff, isCyclic_iff]
  exact ⟨h.symm.transGen, h.transGen⟩

/-- From every vertex of a component with a closed path an arc leads to one of it. -/
theorem exists_arc_inside (hcycle : TransGen g.Arc v v) (hw : w ∈ g.component v) :
    ∃ u, (g.successors w).find? ((g.component v).contains ·) = some u ∧ g.Arc w u ∧
      u ∈ g.component v := by
  have hjoined : g.Joined v w := mem_component.mp hw
  obtain ⟨x, hstep, hback⟩ := TransGen.head'_iff.mp (hjoined.transGen hcycle)
  have hx : x ∈ g.component v :=
    mem_component.mpr ⟨hjoined.1.tail hstep, hback.trans hjoined.2⟩
  obtain ⟨u, hfind⟩ := Option.isSome_iff_exists.mp
    (List.find?_isSome.mpr ⟨x, mem_successors_iff_arc.mpr hstep, List.contains_iff_mem.mpr hx⟩)
  exact ⟨u, hfind, mem_successors_iff_arc.mp (List.mem_of_find?_eq_some hfind),
    List.contains_iff_mem.mp (List.find?_some (p := ((g.component v).contains ·)) hfind)⟩

/-- The component of a node has a first one in the order of the nodes. -/
theorem exists_start (hv : v ∈ g.ids) :
    ∃ start, g.ids.find? ((g.component v).contains ·) = some start ∧ start ∈ g.component v := by
  obtain ⟨start, hstart⟩ := Option.isSome_iff_exists.mp
    (List.find?_isSome.mpr ⟨v, hv, List.contains_iff_mem.mpr (self_mem_component g v)⟩)
  exact ⟨start, hstart,
    List.contains_iff_mem.mp (List.find?_some (p := ((g.component v).contains ·)) hstart)⟩

/-- The search from a vertex of a component with a closed path comes to a loop. -/
theorem isLoop_cycleFrom {start : String} (hcycle : TransGen g.Arc v v)
    (hstart : start ∈ g.component v) :
    IsLoop (fun a b => (g.successors a).find? ((g.component v).contains ·) = some b)
      (g.cycleFrom (g.component v) start) := by
  refine isLoop_follow (fun w hw => ?_) (List.cons_ne_nil start [])
    (List.cons_subset.mpr ⟨hstart, List.nil_subset _⟩) (List.nodup_singleton _)
    (List.isChain_singleton _) (Nat.lt_add_right 1 (Nat.lt_add_one (g.component v).length))
  obtain ⟨u, hstep, _, hu⟩ := exists_arc_inside hcycle hw
  exact ⟨u, hstep, hu⟩

/-- A node on a closed path is shown a cycle of its component. -/
theorem isCycle_cycleOf (hv : v ∈ g.ids) (hcycle : TransGen g.Arc v v) :
    g.IsCycle (g.cycleOf v) ∧ ∀ w ∈ g.cycleOf v, g.Joined v w := by
  obtain ⟨start, hfirst, hstart⟩ := exists_start hv
  have hloop := isLoop_cycleFrom hcycle hstart
  have hinside : ∀ w ∈ g.cycleFrom (g.component v) start, w ∈ g.component v := by
    refine forall_mem_follow (fun a b _ hstep => ?_) (List.forall_mem_singleton.mpr hstart)
    exact List.contains_iff_mem.mp (List.find?_some (p := ((g.component v).contains ·)) hstep)
  simp only [cycleOf, hfirst]
  refine ⟨⟨hloop.closed, hloop.steps.imp fun a b hstep => ?_⟩, fun w hw =>
    mem_component.mp (hinside w hw)⟩
  exact mem_successors_iff_arc.mp (List.mem_of_find?_eq_some hstep)

theorem mem_component_of_joined (h : g.Joined v w) (u : String) :
    u ∈ g.component w ↔ u ∈ g.component v := by
  rw [mem_component, mem_component]
  exact ⟨fun hu => h.trans hu, fun hu => h.symm.trans hu⟩

theorem contains_component (h : g.Joined v w) :
    (g.component w).contains = (g.component v).contains := by
  funext u
  rw [Bool.eq_iff_iff, List.contains_iff_mem, List.contains_iff_mem]
  exact mem_component_of_joined h u

/-- Joined vertices are shown the same cycle. -/
theorem cycleOf_eq_of_joined (h : g.Joined v w) : g.cycleOf w = g.cycleOf v := by
  have hlength : (g.component w).length = (g.component v).length :=
    ((List.perm_ext_iff_of_nodup (nodup_component g w) (nodup_component g v)).mpr
      (mem_component_of_joined h)).length_eq
  simp only [cycleOf, cycleFrom, contains_component h, hlength]

/-! ## The components one by one -/

/-- A closed path runs in a component just if one runs through any given vertex of it. -/
theorem hasCycle_component (g : Graph) (v : String) :
    g.hasCycle (g.component v) = g.isCyclic v := by
  have hself := self_mem_component g v
  unfold isCyclic
  cases hcomponent : g.component v with
  | nil =>
      rw [hcomponent] at hself
      cases hself
  | cons w others =>
      cases others with
      | nil =>
          rw [hcomponent] at hself
          obtain rfl := List.mem_singleton.mp hself
          simp [hasCycle]
      | cons u others => simp [hasCycle]

theorem isFirst_iff : g.isFirst v = true ↔ g.vertices.find? (g.component v).contains = some v :=
  decide_eq_true_iff

theorem eq_of_isFirst (h : g.Joined v w) (hv : g.isFirst v = true) (hw : g.isFirst w = true) :
    v = w := by
  rw [isFirst_iff] at hv hw
  rw [contains_component h, hv] at hw
  exact Option.some.inj hw

theorem exists_isFirst (hv : v ∈ g.vertices) :
    ∃ u ∈ g.vertices, g.isFirst u = true ∧ g.Joined v u := by
  obtain ⟨u, hfind⟩ := Option.isSome_iff_exists.mp
    (List.find?_isSome.mpr ⟨v, hv, List.contains_iff_mem.mpr (self_mem_component g v)⟩)
  have hjoined : g.Joined v u := mem_component.mp
    (List.contains_iff_mem.mp (List.find?_some (p := (g.component v).contains) hfind))
  refine ⟨u, List.mem_of_find?_eq_some hfind, ?_, hjoined⟩
  rw [isFirst_iff, contains_component hjoined]
  exact hfind

/-- What a pass over the components finds of a vertex, it finds in one of them. -/
theorem flatMap_components {α : Type*} (f : List String → List α) (hv : v ∈ g.vertices)
    (hother : ∀ u, ¬ g.Joined v u → f (g.component u) = []) :
    ∃ u, g.Joined v u ∧ g.components.flatMap f = f (g.component u) := by
  obtain ⟨u, hu, hfirst, hjoined⟩ := exists_isFirst hv
  have hnodup : (g.vertices.filter g.isFirst).Nodup := (nodup_eraseDups _).filter _
  obtain ⟨before, after, hsplit⟩ := List.append_of_mem (List.mem_filter.mpr ⟨hu, hfirst⟩)
  have hnone : ∀ w ∈ before ++ after, f (g.component w) = [] := by
    intro w hw
    refine hother w fun h => ?_
    rw [hsplit, List.nodup_middle, List.nodup_cons] at hnodup
    have hmem : w ∈ g.vertices.filter g.isFirst := by
      rw [hsplit]
      exact List.perm_middle.symm.subset (List.mem_cons_of_mem u hw)
    obtain rfl := eq_of_isFirst (hjoined.symm.trans h) hfirst (List.mem_filter.mp hmem).2
    exact hnodup.1 hw
  refine ⟨u, hjoined, ?_⟩
  have hbefore : before.flatMap (fun w => f (g.component w)) = [] :=
    List.flatMap_eq_nil_iff.mpr fun w hw => hnone w (List.mem_append_left _ hw)
  have hafter : after.flatMap (fun w => f (g.component w)) = [] :=
    List.flatMap_eq_nil_iff.mpr fun w hw => hnone w (List.mem_append_right _ hw)
  rw [components, hsplit, List.flatMap_map, List.flatMap_append, List.flatMap_cons, hbefore, hafter,
    List.nil_append, List.append_nil]

end NodeGraph.Graph
