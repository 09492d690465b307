import NodeGraph.Plan
import NodeGraph.Proofs.Graph.EmissionOrder
import NodeGraph.Proofs.Validation.Unbroken

/-!
# The plan

A plan has one line for each node and each edge of the graph, whether the edges run in a circle or
not: the nodes are taken in the order of emission or of the graph, and the edges under their
sources. A text that is shown in a line may have line breaks of its own, and then the line is more
than one in the plan.
-/

namespace NodeGraph

open LineBreaks (free_append free_of_isPrintableAscii)

namespace Graph

open scoped List

variable {g : Graph} {r : Option Registry} {b : LineBreaks}

/-! ## Nodes and edges of a plan -/

theorem planOrder_of_acyclic (h : g.Acyclic) :
    ∃ order, g.emissionOrder = .ok order ∧
      planOrder g = ("# ASCII Plan (emission order)", order) := by
  obtain ⟨order, horder⟩ := exists_emissionOrder_iff.mpr h
  exact ⟨order, horder, by rw [planOrder, horder]⟩

theorem planOrder_of_cycle (h : ¬ g.Acyclic) :
    planOrder g = ("# ASCII Plan (graph order; cycle detected)", g.nodes) := by
  rw [planOrder, emissionOrder_eq_cyclic_iff.mpr h]

/-- A plan has all nodes. -/
theorem planOrder_perm (hdistinct : g.ids.Nodup) : (planOrder g).2.Perm g.nodes := by
  by_cases h : g.Acyclic
  · obtain ⟨order, horder, hplan⟩ := planOrder_of_acyclic h
    rw [hplan]
    exact emissionOrder_perm hdistinct horder
  · rw [planOrder_of_cycle h]

/-- The order of a plan is a topological one if there is any. -/
theorem topological_planOrder_iff (hdistinct : g.ids.Nodup)
    (hsources : ∀ e ∈ g.edges, e.source ∈ g.ids) :
    g.Topological (planOrder g).2 ↔ g.Acyclic := by
  constructor
  · exact fun h => h.acyclic (planOrder_perm hdistinct) hdistinct hsources
  · intro h
    obtain ⟨order, horder, hplan⟩ := planOrder_of_acyclic h
    rw [hplan]
    exact topological_emissionOrder hdistinct hsources horder

/-- Elements put together by keys are the elements, if the keys are all their keys. -/
theorem flatMap_filter_perm {α κ : Type} [DecidableEq κ] {key : α → κ} {keys : List κ} {xs : List α}
    (hkeys : keys.Nodup) (hall : ∀ x ∈ xs, key x ∈ keys) :
    (keys.flatMap fun k => xs.filter (key · = k)).Perm xs := by
  induction keys generalizing xs with
  | nil =>
      obtain rfl : xs = [] := List.eq_nil_iff_forall_not_mem.mpr fun x hx => nomatch hall x hx
      exact .refl _
  | cons k keys ih =>
      obtain ⟨hk, hkeys⟩ := List.nodup_cons.mp hkeys
      -- the elements with the first key are not among those with the other keys
      have hothers : (keys.flatMap fun k' => xs.filter (key · = k')) =
          keys.flatMap fun k' => (xs.filter (key · ≠ k)).filter (key · = k') := by
        refine List.flatMap_congr fun k' hk' => ?_
        rw [List.filter_filter]
        refine List.filter_congr fun x _ => ?_
        have hne : key x = k' → key x ≠ k := by
          rintro rfl rfl
          exact hk hk'
        simpa using hne
      have hall' : ∀ x ∈ xs.filter (key · ≠ k), key x ∈ keys := by
        intro x hx
        obtain ⟨hx, hne⟩ := List.mem_filter.mp hx
        exact (List.mem_cons.mp (hall x hx)).resolve_left (of_decide_eq_true hne)
      rw [List.flatMap_cons, hothers]
      calc xs.filter (key · = k) ++ _
        _ ~ xs.filter (key · = k) ++ xs.filter (key · ≠ k) := (ih hkeys hall').append_left _
        _ ~ xs := by simpa using List.filter_append_perm (key · = k) xs

/-- Each edge is listed once under its source. -/
theorem outgoing_planOrder_perm (hdistinct : g.ids.Nodup)
    (hsources : ∀ e ∈ g.edges, e.source ∈ g.ids) :
    ((planOrder g).2.flatMap fun n => g.outgoing n.id).Perm g.edges := by
  have hids : ((planOrder g).2.map (·.id)).Perm g.ids := (planOrder_perm hdistinct).map _
  have hsources' : ∀ e ∈ g.edges, e.source ∈ (planOrder g).2.map (·.id) :=
    fun e he => hids.mem_iff.mpr (hsources e he)
  have hperm := flatMap_filter_perm (hids.nodup_iff.mpr hdistinct) hsources'
  rwa [List.flatMap_map] at hperm

/-! ## Lines -/

theorem mem_flatten_mapIdx {α β : Type} {f : ℕ → α → List β} {xs : List α} {y : β} :
    y ∈ (xs.mapIdx f).flatten ↔ ∃ i x, xs[i]? = some x ∧ y ∈ f i x := by
  rw [List.mem_flatten]
  constructor
  · rintro ⟨_, hys, hy⟩
    obtain ⟨i, hi, rfl⟩ := List.mem_mapIdx.mp hys
    exact ⟨i, xs[i], List.getElem?_eq_getElem hi, hy⟩
  · rintro ⟨i, x, hx, hy⟩
    obtain ⟨hi, rfl⟩ := List.getElem?_eq_some_iff.mp hx
    exact ⟨_, List.mem_mapIdx.mpr ⟨i, hi, rfl⟩, hy⟩

/-- A line of a plan is its heading, or that of a node or of an edge. -/
theorem mem_planLines_iff {line : String} (hdistinct : g.ids.Nodup)
    (hsources : ∀ e ∈ g.edges, e.source ∈ g.ids) :
    line ∈ planLines g r ↔ line = (planOrder g).1 ∨
      (∃ i n, (planOrder g).2[i]? = some n ∧ line = planNodeLine r (i + 1) n) ∨
      ∃ e ∈ g.edges, planEdgeLine e = line := by
  have hedges : ∀ e, e ∈ g.edges ↔
      ∃ (i : ℕ) (n : Node), (planOrder g).2[i]? = some n ∧ e ∈ g.outgoing n.id := by
    intro e
    rw [← (outgoing_planOrder_perm hdistinct hsources).mem_iff, List.mem_flatMap]
    simp only [List.mem_iff_getElem?]
    tauto
  rw [planLines, List.mem_cons, mem_flatten_mapIdx]
  simp only [List.mem_cons, List.mem_map, hedges]
  constructor
  · rintro (h | ⟨i, n, hn, h | ⟨e, he, h⟩⟩)
    · exact .inl h
    · exact .inr (.inl ⟨i, n, hn, h⟩)
    · exact .inr (.inr ⟨e, ⟨i, n, hn, he⟩, h⟩)
  · rintro (h | ⟨i, n, hn, h⟩ | ⟨e, ⟨i, n, hn, he⟩, h⟩)
    · exact .inl h
    · exact .inr ⟨i, n, hn, .inl h⟩
    · exact .inr ⟨i, n, hn, .inr ⟨e, he, h⟩⟩

/-- The texts that a plan shows are on one line. -/
structure PlanUnbroken (g : Graph) (r : Option Registry) (b : LineBreaks) : Prop where
  nodes : ∀ n ∈ g.nodes, b.Free n.id ∧ b.Free n.type ∧
    ∀ d ∈ r.bind (·.get? n.type), b.Free d.category
  edges : ∀ e ∈ g.edges,
    b.Free e.target ∧ b.Free e.sourceOutput.display ∧ b.Free e.targetInput.display

theorem free_padded (width n : ℕ) : b.Free (padded width n) := by
  refine free_of_subset_numberChars ?_
  rw [padded, String.toList_ofList]
  exact ((Numeral.zeros _).append (Numeral.toDigits n)).subset

theorem free_planNodeLine_iff {i : ℕ} {n : Node} :
    b.Free (planNodeLine r i n) ↔
      b.Free n.id ∧ b.Free n.type ∧ ∀ d ∈ r.bind (·.get? n.type), b.Free d.category := by
  have hpoint : b.Free ". " := free_of_isPrintableAscii rfl
  have hopen : b.Free " [" := free_of_isPrintableAscii rfl
  have hclose : b.Free "]" := free_of_isPrintableAscii rfl
  have hless : b.Free " <" := free_of_isPrintableAscii rfl
  have hgreater : b.Free ">" := free_of_isPrintableAscii rfl
  unfold planNodeLine
  cases r.bind (·.get? n.type) with
  | none => simp [free_padded, hpoint, hopen, hclose]
  | some d => simp [free_padded, hpoint, hopen, hclose, hless, hgreater, and_assoc]

theorem free_planEdgeLine_iff {e : Edge} (harrow : b.Free "└─▶") :
    b.Free (planEdgeLine e) ↔
      b.Free e.target ∧ b.Free e.sourceOutput.display ∧ b.Free e.targetInput.display := by
  have hstart : b.Free "    └─▶ " := by
    have hsplit : "    └─▶ " = "    " ++ "└─▶" ++ " " := by decide +kernel
    rw [hsplit, free_append, free_append]
    exact ⟨⟨free_of_isPrintableAscii rfl, harrow⟩, free_of_isPrintableAscii rfl⟩
  have hopen : b.Free "  (" := free_of_isPrintableAscii rfl
  have harc : b.Free "->" := free_of_isPrintableAscii rfl
  have hclose : b.Free ")" := free_of_isPrintableAscii rfl
  unfold planEdgeLine
  simp only [free_append]
  constructor
  · rintro ⟨⟨⟨⟨⟨⟨_, htarget⟩, _⟩, houtput⟩, _⟩, hinput⟩, _⟩
    exact ⟨htarget, houtput, hinput⟩
  · rintro ⟨htarget, houtput, hinput⟩
    exact ⟨⟨⟨⟨⟨⟨hstart, htarget⟩, hopen⟩, houtput⟩, harc⟩, hinput⟩, hclose⟩

theorem free_heading : b.Free (planOrder g).1 := by
  have hacyclic : b.Free "# ASCII Plan (emission order)" := free_of_isPrintableAscii rfl
  have hcycle : b.Free "# ASCII Plan (graph order; cycle detected)" :=
    free_of_isPrintableAscii rfl
  by_cases h : g.Acyclic
  · obtain ⟨order, _, hplan⟩ := planOrder_of_acyclic h
    rw [hplan]
    exact hacyclic
  · rw [planOrder_of_cycle h]
    exact hcycle

/-- Each line of a plan is on one line if the texts that it shows are. -/
theorem free_planLines_iff (hdistinct : g.ids.Nodup) (hsources : ∀ e ∈ g.edges, e.source ∈ g.ids)
    (harrow : b.Free "└─▶") :
    (∀ line ∈ planLines g r, b.Free line) ↔ g.PlanUnbroken r b := by
  have hnodes : ∀ n, n ∈ g.nodes ↔ ∃ i : ℕ, (planOrder g).2[i]? = some n := by
    intro n
    rw [← (planOrder_perm hdistinct).mem_iff, List.mem_iff_getElem?]
  constructor
  · intro h
    constructor
    · intro n hn
      obtain ⟨i, hi⟩ := (hnodes n).mp hn
      have hline : planNodeLine r (i + 1) n ∈ planLines g r :=
        (mem_planLines_iff hdistinct hsources).mpr (.inr (.inl ⟨i, n, hi, rfl⟩))
      exact free_planNodeLine_iff.mp (h _ hline)
    · intro e he
      have hline : planEdgeLine e ∈ planLines g r :=
        (mem_planLines_iff hdistinct hsources).mpr (.inr (.inr ⟨e, he, rfl⟩))
      exact (free_planEdgeLine_iff harrow).mp (h _ hline)
  · intro h line hline
    rcases (mem_planLines_iff hdistinct hsources).mp hline with rfl | ⟨i, n, hi, rfl⟩ | ⟨e, he, rfl⟩
    · exact free_heading
    · exact free_planNodeLine_iff.mpr (h.nodes n ((hnodes n).mpr ⟨i, hi⟩))
    · exact (free_planEdgeLine_iff harrow).mpr (h.edges e he)

/-! ## The text -/

/-- A plan is made if all pins can be written. -/
theorem plan_eq (hdistinct : g.ids.Nodup) (hsources : ∀ e ∈ g.edges, e.source ∈ g.ids) :
    g.plan r = if g.edges.all Edge.isWritable then .ok (asciiPlan g r) else .error .wrongShape := by
  rw [plan, ← List.all_flatMap, (outgoing_planOrder_perm hdistinct hsources).all_eq]

theorem all_isWritable_of_texts
    (h : ∀ e ∈ g.edges, ∃ output input,
      e.sourceOutput = .text output ∧ e.targetInput = .text input) :
    g.edges.all Edge.isWritable = true := by
  refine List.all_eq_true.mpr fun e he => ?_
  obtain ⟨output, input, houtput, hinput⟩ := h e he
  rw [Edge.isWritable, houtput, hinput]
  rfl

/-- A plan is complete, whether the graph has cycles or not: below the heading each node has one
line, numbered from 1, and right behind it one line for each of its edges in their order, so that
each edge is listed once, under its source. Without a cycle the nodes are in the order of emission,
which is a topological one, and with one they are in the order of the graph. The plan is made if all
pins can be written, as texts can, and its lines are these if no text that they show has a line
break. -/
theorem plan_complete (g : Graph) (r : Option Registry) (hdistinct : g.ids.Nodup)
    (hsources : ∀ e ∈ g.edges, e.source ∈ g.ids) :
    ∃ heading order,
      (g.Acyclic → heading = "# ASCII Plan (emission order)" ∧ g.emissionOrder = .ok order) ∧
      (¬ g.Acyclic → heading = "# ASCII Plan (graph order; cycle detected)" ∧ order = g.nodes) ∧
      (g.Topological order ↔ g.Acyclic) ∧
      order.Perm g.nodes ∧
      (order.flatMap fun n => g.outgoing n.id).Perm g.edges ∧
      let lines := heading :: (order.mapIdx fun i n =>
        planNodeLine r (i + 1) n :: (g.outgoing n.id).map planEdgeLine).flatten
      let text := "\n".intercalate lines
      (g.plan r = if g.edges.all Edge.isWritable then .ok text else .error .wrongShape) ∧
      ((∀ e ∈ g.edges, ∃ output input, e.sourceOutput = .text output ∧
        e.targetInput = .text input) → g.plan r = .ok text) ∧
      ∀ b : LineBreaks, b.Free "└─▶" →
        (b.lines text = lines.map (·.toList) ↔ g.PlanUnbroken r b) := by
  have hplan : g.plan r =
      if g.edges.all Edge.isWritable then .ok (asciiPlan g r) else .error .wrongShape :=
    plan_eq hdistinct hsources
  refine ⟨(planOrder g).1, (planOrder g).2, ?_, ?_, topological_planOrder_iff hdistinct hsources,
    planOrder_perm hdistinct, outgoing_planOrder_perm hdistinct hsources, hplan, ?_, ?_⟩
  · intro h
    obtain ⟨order, horder, hplanned⟩ := planOrder_of_acyclic h
    rw [hplanned]
    exact ⟨rfl, horder⟩
  · intro h
    rw [planOrder_of_cycle h]
    exact ⟨rfl, rfl⟩
  · intro htexts
    exact hplan.trans (if_pos (all_isWritable_of_texts htexts))
  · intro b harrow
    exact (LineBreaks.lines_intercalate_iff (List.cons_ne_nil _ _)).trans
      (free_planLines_iff hdistinct hsources harrow)

/-- Two nodes in a circle, one of which leads to a third that is not there. -/
def ring : Graph :=
  ⟨[⟨"b", "Relay", .origin, []⟩, ⟨"a", "Relay", .origin, []⟩],
    [⟨"e1", "a", .text "out", "b", .text "in"⟩, ⟨"e2", "b", .text "out", "c", .text "in"⟩,
      ⟨"e3", "b", .text "out", "a", .text "in"⟩]⟩

theorem ring_planned :
    ring.ids.Nodup ∧ (∀ e ∈ ring.edges, e.source ∈ ring.ids) ∧
      ring.plan none = .ok ("\n".intercalate ["# ASCII Plan (graph order; cycle detected)",
        "01. b [Relay]", "    └─▶ c  (out->in)", "    └─▶ a  (out->in)", "02. a [Relay]",
        "    └─▶ b  (out->in)"]) := by
  have hdistinct : ring.ids.Nodup := by decide
  have hsources : ∀ e ∈ ring.edges, e.source ∈ ring.ids := by decide
  have hcycle : ¬ ring.Acyclic := by
    intro h
    have hab : ring.Arc "a" "b" := ⟨_, List.mem_cons_self, rfl, rfl⟩
    have hba : ring.Arc "b" "a" :=
      ⟨⟨"e3", "b", .text "out", "a", .text "in"⟩, by simp [ring], rfl, rfl⟩
    exact h "a" (.head hab (.single hba))
  obtain ⟨heading, order, _, hgraphOrder, _, _, _, _, htexts, _⟩ :=
    plan_complete ring none hdistinct hsources
  obtain ⟨rfl, rfl⟩ := hgraphOrder hcycle
  refine ⟨hdistinct, hsources, (htexts ?_).trans ?_⟩
  · simp [ring]
  · rfl

/-- One node, whose id goes on with a line feed and what looks like the line of another node. -/
def forged : Graph := ⟨[⟨"a [Relay]\n02. b", "Relay", .origin, []⟩], []⟩

theorem forged_planned_as_two :
    forged.ids.Nodup ∧ (∀ e ∈ forged.edges, e.source ∈ forged.ids) ∧
      ∃ text, forged.plan none = .ok text ∧
        LineBreaks.feeds.lines text =
          ["# ASCII Plan (emission order)", "01. a [Relay]", "02. b [Relay]"].map (·.toList) ∧
        (LineBreaks.feeds.lines text).length ≠ 1 + forged.nodes.length + forged.edges.length := by
  have hplan : forged.plan none =
      .ok "# ASCII Plan (emission order)\n01. a [Relay]\n02. b [Relay]" := by decide +kernel
  have hlines : LineBreaks.feeds.lines
        "# ASCII Plan (emission order)\n01. a [Relay]\n02. b [Relay]" =
      ["# ASCII Plan (emission order)", "01. a [Relay]", "02. b [Relay]"].map (·.toList) := by
    decide +kernel
  exact ⟨by decide, by decide, _, hplan, hlines, by rw [hlines]; decide⟩

end Graph

end NodeGraph
