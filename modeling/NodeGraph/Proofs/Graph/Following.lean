import NodeGraph.Proofs.Graph.Cycle

/-!
# Which vertices a shown cycle has

The search for a cycle starts at the first node of a component and leaves every vertex by the first
edge that stays in the component. So its way is determined, and the cycle that it shows has the
vertices on this way which the way comes back to. These are all of the component if no vertex can be
left by two arcs inside it; with two arcs, some may be missed.
-/

namespace NodeGraph.Graph

open Relation

/-! ## Loops along determined steps -/

section Loop

variable {R : String → String → Prop} {path : List String} {start v w : String}

theorem IsLoop.exists_mem (h : IsLoop R path) : ∃ v, v ∈ path := by
  obtain ⟨v, between, rfl, _⟩ := h.closed
  exact ⟨v, List.mem_cons_self⟩

theorem IsLoop.exists_step (h : IsLoop R path) (hv : v ∈ path) : ∃ w ∈ path, R v w := by
  obtain ⟨u, between, rfl, _⟩ := h.closed
  have hv : v ∈ u :: between := by
    simp only [List.mem_cons, List.mem_append, List.not_mem_nil, or_false] at hv ⊢
    tauto
  obtain ⟨before, after, hsplit⟩ := List.append_of_mem hv
  have hpath : u :: (between ++ [u]) = before ++ v :: (after ++ [u]) := by
    rw [← List.cons_append, hsplit, List.append_assoc, List.cons_append]
  have hsteps := h.steps
  rw [hpath] at hsteps ⊢
  -- something stands behind `v`, since the path ends with a vertex of its own
  obtain ⟨w, rest, hrest⟩ := List.exists_cons_of_ne_nil
    (List.append_ne_nil_of_right_ne_nil after (List.cons_ne_nil u []))
  rw [hrest] at hsteps ⊢
  exact ⟨w, by simp, (List.isChain_cons_cons.mp (List.isChain_append.mp hsteps).2.1).1⟩

/-- From every vertex of a loop it leads back there. -/
theorem IsLoop.transGen (h : IsLoop R path) (hv : v ∈ path) : TransGen R v v := by
  obtain ⟨u, between, rfl, _⟩ := h.closed
  have hto : ∀ w ∈ u :: (between ++ [u]), ReflTransGen R u w :=
    h.steps.induction _ _ (fun _ _ hstep hpath => hpath.tail hstep) fun _ => .refl
  have hback : ∀ w ∈ u :: (between ++ [u]), ReflTransGen R w u := by
    refine h.steps.backwards_induction _ _ (fun _ _ hstep hpath => hpath.head hstep) fun hne => ?_
    rw [List.getLast_cons (by simp), List.getLast_append_singleton]
  obtain ⟨w, hw, hstep⟩ := h.exists_step hv
  exact .head' hstep ((hback w hw).trans (hto v hv))

theorem IsLoop.mem_of_step (hR : Relator.RightUnique R) (h : IsLoop R path) (hv : v ∈ path)
    (hstep : R v w) : w ∈ path := by
  obtain ⟨u, hu, hstep'⟩ := h.exists_step hv
  exact hR hstep hstep' ▸ hu

theorem IsLoop.mem_of_reflTransGen (hR : Relator.RightUnique R) (h : IsLoop R path) (hv : v ∈ path)
    (hway : ReflTransGen R v w) : w ∈ path := by
  induction hway with
  | refl => exact hv
  | tail _ hstep ih => exact h.mem_of_step hR ih hstep

/-- Where steps are determined, what lies behind a vertex that they lead back to leads back too. -/
theorem transGen_of_loop (hR : Relator.RightUnique R) (hloop : TransGen R v v)
    (hway : ReflTransGen R v w) : TransGen R w v := by
  induction hway with
  | refl => exact hloop
  | tail _ hstep ih =>
      obtain ⟨u, hstep', hback⟩ := TransGen.head'_iff.mp ih
      rw [hR hstep hstep']
      exact .trans_right hback hloop

/-- A loop that the way from `start` comes to has the vertices on this way that it comes back to. -/
theorem IsLoop.mem_iff (hR : Relator.RightUnique R) (h : IsLoop R path)
    (hreach : ∀ v ∈ path, ReflTransGen R start v) :
    v ∈ path ↔ ReflTransGen R start v ∧ TransGen R v v := by
  constructor
  · intro hv
    exact ⟨hreach v hv, h.transGen hv⟩
  · rintro ⟨hway, hloop⟩
    obtain ⟨u, hu⟩ := h.exists_mem
    rcases hway.total_of_right_unique hR (hreach u hu) with hvu | huv
    · exact h.mem_of_reflTransGen hR hu (transGen_of_loop hR hloop hvu).to_reflTransGen
    · exact h.mem_of_reflTransGen hR hu huv

end Loop

/-! ## The way of the search -/

variable {g : Graph} {a b v w : String}

/-- The first node, in the order of the nodes, among those joined to `v`. -/
def FirstJoined (g : Graph) (v start : String) : Prop :=
  g.Joined v start ∧ ∃ before after, g.ids = before ++ start :: after ∧
    ∀ w ∈ before, ¬ g.Joined v w

/-- The first edge from `a` to a vertex that is joined to `v` leads to `b`. -/
def Follows (g : Graph) (v a b : String) : Prop :=
  ∃ before e after, g.edges = before ++ e :: after ∧ e.source = a ∧ e.target = b ∧ g.Joined v b ∧
    ∀ other ∈ before, other.source = a → ¬ g.Joined v other.target

theorem contains_component_iff : (g.component v).contains w = true ↔ g.Joined v w :=
  List.contains_iff_mem.trans mem_component

theorem find?_ids_eq_some_iff {start : String} :
    g.ids.find? ((g.component v).contains ·) = some start ↔ g.FirstJoined v start := by
  rw [List.find?_eq_some_iff_append, contains_component_iff]
  simp only [FirstJoined, Bool.not_eq_true', ← Bool.not_eq_true, contains_component_iff]

theorem find?_successors_eq_some_iff :
    (g.successors a).find? ((g.component v).contains ·) = some b ↔ g.Follows v a b := by
  rw [successors, find?_eraseDups, List.find?_map, outgoing, List.find?_filter,
    Option.map_eq_some_iff]
  simp only [List.find?_eq_some_iff_append, Function.comp_apply, decide_eq_true_eq,
    contains_component_iff, Bool.not_eq_true', decide_eq_false_iff_not, not_and]
  constructor
  · rintro ⟨e, ⟨⟨hsource, hjoined⟩, before, after, hedges, hbefore⟩, rfl⟩
    exact ⟨before, e, after, hedges, hsource, rfl, hjoined, hbefore⟩
  · rintro ⟨before, e, after, hedges, hsource, rfl, hjoined, hbefore⟩
    exact ⟨e, ⟨⟨hsource, hjoined⟩, before, after, hedges, hbefore⟩, rfl⟩

theorem rightUnique_follows (g : Graph) (v : String) : Relator.RightUnique (g.Follows v) := by
  intro a b c hb hc
  rw [← find?_successors_eq_some_iff] at hb hc
  exact Option.some.inj (hb.symm.trans hc)

/-! ## The cycle that is shown -/

/-- The cycle shown for a node has just the vertices that the way from the first node of its
component comes to and comes back to. -/
theorem mem_cycleOf_iff (hv : v ∈ g.ids) (hcycle : TransGen g.Arc v v) :
    w ∈ g.cycleOf v ↔ ∃ start, g.FirstJoined v start ∧ ReflTransGen (g.Follows v) start w ∧
      TransGen (g.Follows v) w w := by
  obtain ⟨start, hfirst, hstart⟩ := exists_start hv
  have hloop := isLoop_cycleFrom hcycle hstart
  have hreach : ∀ w ∈ g.cycleFrom (g.component v) start, ReflTransGen (g.Follows v) start w := by
    refine forall_mem_follow (fun a b hway hstep => hway.tail ?_) (by simp [ReflTransGen.refl])
    exact find?_successors_eq_some_iff.mp hstep
  simp only [find?_successors_eq_some_iff] at hloop
  have hmem := hloop.mem_iff (rightUnique_follows g v) hreach (v := w)
  simp only [cycleOf, hfirst]
  rw [hmem]
  constructor
  · intro h
    exact ⟨start, find?_ids_eq_some_iff.mp hfirst, h⟩
  · rintro ⟨other, hother, h⟩
    rw [← find?_ids_eq_some_iff, hfirst] at hother
    rwa [Option.some.inj hother]

/-- No vertex of the component of `v` is left by two arcs that stay in the component. -/
def OneWay (g : Graph) (v : String) : Prop :=
  ∀ a b c, g.Joined v a → g.Joined v b → g.Joined v c → g.Arc a b → g.Arc a c → b = c

theorem OneWay.follows (h : g.OneWay v) (hcycle : TransGen g.Arc v v) (ha : g.Joined v a)
    (hb : g.Joined v b) (harc : g.Arc a b) : g.Follows v a b := by
  obtain ⟨c, hstep, harc', hc⟩ := exists_arc_inside hcycle (mem_component.mpr ha)
  rw [h a b c ha hb (mem_component.mp hc) harc harc']
  exact find?_successors_eq_some_iff.mp hstep

/-- A path between vertices of the component stays in it, so the search takes it. -/
theorem OneWay.reflTransGen (h : g.OneWay v) (hcycle : TransGen g.Arc v v) (ha : g.Joined v a)
    (hb : g.Joined v b) (hpath : ReflTransGen g.Arc a b) : ReflTransGen (g.Follows v) a b := by
  induction hpath using ReflTransGen.head_induction_on with
  | refl => exact .refl
  | @head a c harc hrest ih =>
      have hc : g.Joined v c := ⟨ha.1.tail harc, hrest.trans hb.2⟩
      exact .head (h.follows hcycle ha hc harc) (ih hc)

/-- If the component is nothing but a cycle, it is the one that is shown. -/
theorem OneWay.mem_cycleOf (h : g.OneWay v) (hv : v ∈ g.ids) (hcycle : TransGen g.Arc v v)
    (hw : g.Joined v w) : w ∈ g.cycleOf v := by
  obtain ⟨start, hfirst, _⟩ := exists_start hv
  have hfirst := find?_ids_eq_some_iff.mp hfirst
  refine (mem_cycleOf_iff hv hcycle).mpr ⟨start, hfirst, ?_, ?_⟩
  · exact h.reflTransGen hcycle hfirst.1 hw (hfirst.1.2.trans hw.1)
  · obtain ⟨u, harc, hback⟩ := TransGen.head'_iff.mp (hw.transGen hcycle)
    have hu : g.Joined v u := ⟨hw.1.tail harc, hback.trans hw.2⟩
    exact .head' (h.follows hcycle hw hu harc) (h.reflTransGen hcycle hu hw hback)

end NodeGraph.Graph
