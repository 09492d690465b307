import NodeGraph.Project
import NodeGraph.Proofs.Generation.Source
import NodeGraph.Proofs.Validation.Completion
import NodeGraph.Proofs.Validation.Detached

/-!
# Graphs that cannot be ordered

Generation gets stuck on a cycle in one case only: the graph gets no message, and edges that have no
node at either end run in a circle. Validation looks for cycles at the nodes, the order of emission
is one of all vertices, and only such edges are in the one and not in the other.
-/

namespace NodeGraph

variable {g : Graph} {r : Registry} {s : Settings}

/-! ## What generation can fail with -/

theorem validate_ne_cyclic : validate g r ≠ .error .cyclic := by
  intro h
  rcases validate_error h with ⟨_, _, hstops⟩ | ⟨_, _, _, _, _, _, _, hstops⟩
  · rcases hstops.fault_eq with hfault | hfault <;> cases hfault
  · rcases hstops.fault_eq with hfault | hfault <;> cases hfault

theorem expandNode_ne_cyclic {n : Node} : expandNode g r s n ≠ .error .cyclic := by
  intro h
  rcases bind_eq_error_iff.mp h with hrequire | ⟨d, _, hexpand⟩
  · unfold Registry.require at hrequire
    split at hrequire <;> cases hrequire
  · rcases Expansion.expand_error hexpand with ⟨_, hfault⟩ | ⟨hfault, _⟩ <;> cases hfault

/-- Past the lookups of the pins, source is missing for want of an order or of a chunk. -/
theorem generateCode_eq_cyclic_iff (hkeys : ∀ e ∈ g.edges, e.targetInput.isKey = true) :
    generateCode g r s = .error .cyclic ↔ ¬ g.Acyclic := by
  have hnone : (g.edges.any fun e => !e.targetInput.isKey) = false := by
    rw [List.any_eq_false]
    intro e he
    simp [hkeys e he]
  rw [← Graph.emissionOrder_eq_cyclic_iff, generateCode, hnone]
  show (g.emissionOrder >>= _) = _ ↔ _
  rw [bind_eq_error_iff]
  refine or_iff_left ?_
  rintro ⟨order, _, hrest⟩
  rcases bind_eq_error_iff.mp hrest with hchunks | ⟨_, _, hpure⟩
  · obtain ⟨n, _, hchunk⟩ := exists_of_mapM_eq_error hchunks
    exact expandNode_ne_cyclic hchunk
  · cases hpure

theorem generate_eq_cyclic_iff :
    generate g r s = .error .cyclic ↔ validate g r = .ok [] ∧ g.HasDetachedCycle := by
  cases hvalidate : validate g r with
  | error fault =>
      have hne : fault ≠ .cyclic := by
        rintro rfl
        exact validate_ne_cyclic hvalidate
      have hgenerate : generate g r s = .error fault := by
        simp only [generate, hvalidate]
        rfl
      simp [hgenerate, hne]
  | ok errors =>
      by_cases hne : errors = []
      · subst hne
        have hcode : generate g r s = generateCode g r s := by
          simp only [generate, hvalidate]
          rfl
        rw [hcode, generateCode_eq_cyclic_iff (validate_eq_nil_iff_messages.mp hvalidate).1,
          acyclic_iff_of_validate hvalidate, not_not]
        simp
      · simp [generate_of_messages hvalidate hne, hne]

/-- A graph without messages has an order of emission unless edges without nodes run in a circle,
and that is the only case in which generation gets stuck on a cycle. A graph with messages is
reported on. Nothing is assumed of the graph: ids may repeat and ends may be missing. -/
theorem generate_feasible (g : Graph) (r : Registry) (s : Settings) :
    (validate g r = .ok [] →
      ((∃ order, g.emissionOrder = .ok order) ↔ ¬ g.HasDetachedCycle)) ∧
    (generate g r s = .error .cyclic ↔ validate g r = .ok [] ∧ g.HasDetachedCycle) ∧
    ∀ errors, validate g r = .ok errors → errors ≠ [] →
      generate g r s = .ok (errorReport errors s) := by
  refine ⟨fun hvalidate => ?_, generate_eq_cyclic_iff, fun errors hvalidate hne => ?_⟩
  · rw [Graph.exists_emissionOrder_iff, acyclic_iff_of_validate hvalidate]
  · exact generate_of_messages hvalidate hne

theorem printed_two_feasible :
    validate (printed (.int 2)) numberTypes = .ok [] ∧
      ∃ order, (printed (.int 2)).emissionOrder = .ok order := by
  have hvalidate : validate (printed (.int 2)) numberTypes = .ok [] := by decide +kernel
  refine ⟨hvalidate, ?_⟩
  refine ((generate_feasible (printed (.int 2)) numberTypes .standard).1 hvalidate).mpr ?_
  rintro ⟨v, hcycle⟩
  obtain ⟨w, ⟨⟨e, he, rfl, _⟩, hsource, _⟩, _⟩ := Relation.TransGen.head'_iff.mp hcycle
  have hknown : ∀ e ∈ (printed (.int 2)).edges, e.source ∈ (printed (.int 2)).ids := by decide
  exact hsource (hknown e he)

/-- A project without nodes, and with an edge that ends where it starts. -/
def detachedLoopFile : String :=
  "graph:\n  nodes: []\n  edges:\n" ++
    "  - id: e\n    source: x\n    source_output: out\n    target: x\n    target_input: in\n"

theorem validate_of_nodes_eq_nil (hnodes : g.nodes = [])
    (hkeys : ∀ e ∈ g.edges, e.targetInput.isKey = true) : validate g r = .ok [] := by
  refine validate_eq_nil_iff_messages.mpr ⟨hkeys, ?_⟩
  rw [hnodes]
  exact fun n hn => absurd hn List.not_mem_nil

/-- The file can be read and its graph gets no message, but the edge has no order. -/
theorem detachedLoop_stuck :
    ∃ p, Project.ofText detachedLoopFile = .ok p ∧ validate p.graph .empty = .ok [] ∧
      (¬ ∃ order, p.graph.emissionOrder = .ok order) ∧
      generate p.graph .empty .standard = .error .cyclic := by
  have hfile : (Project.ofText detachedLoopFile).toOption.any (fun p => p.graph.nodes.isEmpty &&
      p.graph.edges.any (fun e => e.source = "x" && e.target = "x") &&
      p.graph.edges.all (·.targetInput.isKey)) = true := by decide +kernel
  cases hread : Project.ofText detachedLoopFile with
  | error fault =>
      rw [hread] at hfile
      cases hfile
  | ok p =>
      simp only [hread, Except.toOption, Option.any_some, Bool.and_eq_true, List.isEmpty_iff,
        List.any_eq_true, decide_eq_true_eq, List.all_eq_true] at hfile
      obtain ⟨⟨hnodes, e, he, hsource, htarget⟩, hkeys⟩ := hfile
      have hvalidate : validate p.graph .empty = .ok [] := validate_of_nodes_eq_nil hnodes hkeys
      have hnone : "x" ∉ p.graph.ids := by simp [Graph.ids, hnodes]
      have hcycle : p.graph.HasDetachedCycle :=
        ⟨"x", .single ⟨⟨e, he, hsource, htarget⟩, hnone, hnone⟩⟩
      refine ⟨p, rfl, hvalidate, ?_, generate_eq_cyclic_iff.mpr ⟨hvalidate, hcycle⟩⟩
      rw [Graph.exists_emissionOrder_iff, acyclic_iff_of_validate hvalidate, not_not]
      exact hcycle

end NodeGraph
