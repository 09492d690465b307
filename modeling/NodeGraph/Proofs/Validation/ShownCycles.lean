import NodeGraph.Proofs.Graph.Following
import NodeGraph.Proofs.Validation.Reports

/-!
# Whether a shown cycle has the node it is shown for

Every node on a closed path of edges is told of a cycle. All nodes of a component are told of the
same one, the one that the search from the first of them runs into, and nothing makes it pass
through each of them. It has a given node if the search comes to the node and back to it; in a
component that is nothing but one cycle this is so for all.
-/

namespace NodeGraph

open Relation

variable {g : Graph} {r : Registry} {n : Node} {errors : List NodeErrors}

theorem cycleMessage_mem_complaints (hcycle : TransGen g.Arc n.id n.id) :
    cycleMessage (g.cycleOf n.id) ∈ g.complaints r n := by
  rw [Graph.complaints, if_pos hcycle]
  exact List.mem_append_right _ (List.mem_singleton_self _)

theorem mem_report_of_mem_complaints {message : String} (hn : n ∈ g.nodes)
    (h : message ∈ g.complaints r n) : ⟨n.id, g.complaints r n⟩ ∈ g.report r := by
  refine List.mem_filter.mpr ⟨List.mem_map_of_mem hn, ?_⟩
  simpa using List.ne_nil_of_mem h

/-- A node on a closed path is told of a cycle of the graph. The node is on it exactly if the search
from the first node of its component comes to it and comes back to it, and always if no vertex of
the component is left by two arcs that stay in the component. -/
theorem shownCycle_contains_iff (hdistinct : g.ids.Nodup) (hvalidate : validate g r = .ok errors)
    (hn : n ∈ g.nodes) (hcycle : TransGen g.Arc n.id n.id) :
    (∃ messages, ⟨n.id, messages⟩ ∈ errors ∧ cycleMessage (g.cycleOf n.id) ∈ messages) ∧
      g.IsCycle (g.cycleOf n.id) ∧
      (n.id ∈ g.cycleOf n.id ↔ ∃ start, g.FirstJoined n.id start ∧
        ReflTransGen (g.Follows n.id) start n.id ∧ TransGen (g.Follows n.id) n.id n.id) ∧
      (g.OneWay n.id → n.id ∈ g.cycleOf n.id) := by
  have hid : n.id ∈ g.ids := Graph.mem_ids_of_mem hn
  have hmessage : cycleMessage (g.cycleOf n.id) ∈ g.complaints r n :=
    cycleMessage_mem_complaints hcycle
  refine ⟨⟨g.complaints r n, ?_, hmessage⟩, (Graph.isCycle_cycleOf hid hcycle).1,
    Graph.mem_cycleOf_iff hid hcycle, fun h => h.mem_cycleOf hid hcycle ⟨.refl, .refl⟩⟩
  rw [report_of_validate hdistinct hvalidate]
  exact mem_report_of_mem_complaints hn hmessage

/-! ## Two cycles that share an edge -/

/-- A number is passed on from the input to the output. -/
def relayType : NodeDefinition where
  name := "Relay"
  category := "Numbers"
  description := "Passes a number on"
  fields := .empty
  pins := ⟨[⟨"x", "f64", none, false⟩], [⟨"y", "f64", none, false⟩], List.nodup_singleton _,
    List.nodup_singleton _⟩
  template := "\x7b\x7bx\x7d\x7d"
  hook := none

/-- Three relays in a circle, and the third one is also connected back to the second. -/
def looped : Graph where
  nodes := [⟨"a", "Relay", .origin, []⟩, ⟨"b", "Relay", .origin, []⟩, ⟨"c", "Relay", .origin, []⟩]
  edges := [⟨"ab", "a", .text "y", "b", .text "x"⟩, ⟨"bc", "b", .text "y", "c", .text "x"⟩,
    ⟨"cb", "c", .text "y", "b", .text "x"⟩, ⟨"ca", "c", .text "y", "a", .text "x"⟩]

/-- What validation says of these relays. -/
def loopedReport : List NodeErrors :=
  [⟨"a", ["Node is part of a cycle: b -> c -> b"]⟩,
    ⟨"b", ["Node is part of a cycle: b -> c -> b"]⟩,
    ⟨"c", ["Node is part of a cycle: b -> c -> b"]⟩]

theorem validate_looped : validate looped (Registry.empty.add relayType) = .ok loopedReport := by
  decide +kernel

/-- The second relay is on the cycle that it is told of: the search comes to it from the first one
and back to it from the third one. -/
theorem looped_second_shown :
    ∃ messages, ⟨"b", messages⟩ ∈ loopedReport ∧ cycleMessage (looped.cycleOf "b") ∈ messages ∧
      "b" ∈ looped.cycleOf "b" := by
  have hdistinct : looped.ids.Nodup := by decide
  have hb : ⟨"b", "Relay", .origin, []⟩ ∈ looped.nodes := by simp [looped]
  have hbc : looped.Arc "b" "c" := by simp [Graph.Arc, looped]
  have hcb : looped.Arc "c" "b" := by simp [Graph.Arc, looped]
  have hca : looped.Arc "c" "a" := by simp [Graph.Arc, looped]
  have hab : looped.Arc "a" "b" := by simp [Graph.Arc, looped]
  obtain ⟨⟨messages, hentry, hmessage⟩, -, hshown, -⟩ := shownCycle_contains_iff hdistinct
    validate_looped hb (.tail (.single hbc) hcb)
  have hfirst : looped.FirstJoined "b" "a" :=
    ⟨⟨.tail (.single hbc) hca, .single hab⟩, [], ["b", "c"], rfl, by simp⟩
  have hfrom : looped.Follows "b" "a" "b" :=
    ⟨[], _, _, rfl, rfl, rfl, ⟨.refl, .refl⟩, by simp⟩
  have hto : looped.Follows "b" "b" "c" :=
    ⟨[_], _, _, rfl, rfl, rfl, ⟨.single hbc, .single hcb⟩, by simp⟩
  have hback : looped.Follows "b" "c" "b" :=
    ⟨[_, _], _, _, rfl, rfl, rfl, ⟨.refl, .refl⟩, by simp⟩
  exact ⟨messages, hentry, hmessage,
    hshown.mpr ⟨"a", hfirst, .single hfrom, .tail (.single hto) hback⟩⟩

/-- The first relay is on a cycle, but not on the one that it is told of. -/
theorem looped_first_missing :
    looped.ids.Nodup ∧ validate looped (Registry.empty.add relayType) = .ok loopedReport ∧
      TransGen looped.Arc "a" "a" ∧ loopedReport.head? =
        some ⟨"a", [cycleMessage ["b", "c", "b"]]⟩ ∧ "a" ∉ ["b", "c", "b"] := by
  have hab : looped.Arc "a" "b" := by simp [Graph.Arc, looped]
  have hbc : looped.Arc "b" "c" := by simp [Graph.Arc, looped]
  have hca : looped.Arc "c" "a" := by simp [Graph.Arc, looped]
  exact ⟨by decide, validate_looped, .tail (.tail (.single hab) hbc) hca, rfl, by decide⟩

end NodeGraph
