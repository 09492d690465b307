import NodeGraph.Proofs.Yaml.Blame
import NodeGraph.Yaml.Document

/-!
# Why a text has no value

Almost all texts without a value are malformed. The other faults have two sources: the reading of
tokens, which then ends with the fault, and the conversion of a scalar whose tag asks for a truth
value, a number or a timestamp that its text does not give. A tag may also stand before a mapping,
which then stands for the text under its value key.
-/

namespace NodeGraph.Yaml

/-! ## Scalars -/

/-- The tags that ask for a truth value, a number or a timestamp. -/
def Tag.exact : List Tag := [.bool, .int, .float, .timestamp]

theorem malformed_or_mem_exact {tag : Tag} {text : String} {f : Fault}
    (h : scalarValue tag text = .error f) : f = .malformed ∨ tag ∈ Tag.exact := by
  unfold scalarValue at h
  split at h
  · cases h
  · exact .inr (by decide)
  · exact .inr (by decide)
  · exact .inr (by decide)
  · refine .inl ?_
    unfold readBinary at h
    split at h
    · split at h
      · cases h
      · exact (Except.error.inj h).symm
    · exact (Except.error.inj h).symm
  · exact .inr (by decide)
  · cases h
  · exact .inl (Except.error.inj h).symm

/-! ## Building -/

namespace Node

/-- A node holds, or is, a text that does not give what its tag asks for. A mapping stands for the
text under its value key, but not as a timestamp. -/
inductive Refused : Node → Fault → Prop
  | scalar {tag : Tag} {text : String} {f : Fault} (htag : tag ∈ Tag.exact)
      (htext : scalarValue tag text = .error f) : Refused (.scalar tag text) f
  | valueKey {tag : Tag} {pairs : List (Node × Node)} {text : String} {f : Fault}
      (htag : tag ∈ Tag.exact) (hother : tag ≠ .timestamp) (hkey : valueText? pairs = some text)
      (htext : scalarValue tag text = .error f) : Refused (.mapping tag pairs) f
  | timestamp {pairs : List (Node × Node)} (hkey : (valueText? pairs).isSome = true) :
      Refused (.mapping .timestamp pairs) .notText
  | item {tag : Tag} {items : List Node} {node : Node} {f : Fault} (hmem : node ∈ items)
      (hnode : node.Refused f) : Refused (.sequence tag items) f
  | key {tag : Tag} {pairs : List (Node × Node)} {pair : Node × Node} {f : Fault}
      (hmem : pair ∈ pairs) (hkey : pair.1.Refused f) : Refused (.mapping tag pairs) f
  | value {tag : Tag} {pairs : List (Node × Node)} {pair : Node × Node} {f : Fault}
      (hmem : pair ∈ pairs) (hvalue : pair.2.Refused f) : Refused (.mapping tag pairs) f

/-- Some item holds such a text. -/
def AnyRefused (items : List Node) (f : Fault) : Prop := ∃ node ∈ items, node.Refused f

/-- Some key or value holds such a text. -/
def PairRefused (pairs : List (Node × Node)) (f : Fault) : Prop :=
  ∃ pair ∈ pairs, pair.1.Refused f ∨ pair.2.Refused f

end Node

namespace Built

variable {p q : Fault → Prop} {faults faults' : List (Nat × Fault)}

/-- All faults are those of malformed texts or of a kind. -/
def Owned (p : Fault → Prop) (faults : List (Nat × Fault)) : Prop :=
  ∀ entry ∈ faults, entry.2 = .malformed ∨ p entry.2

theorem owned_nil : Owned p [] := by
  intro entry hmem
  cases hmem

theorem owned_malformed (level : Nat) : Owned p [(level, .malformed)] := by
  intro entry hmem
  rw [List.mem_singleton.mp hmem]
  exact .inl rfl

theorem Owned.append (h : Owned p faults) (h' : Owned p faults') : Owned p (faults ++ faults') := by
  intro entry hmem
  rcases List.mem_append.mp hmem with hmem | hmem
  · exact h entry hmem
  · exact h' entry hmem

theorem Owned.mono (h : Owned p faults) (himp : ∀ f, p f → q f) : Owned q faults := by
  intro entry hmem
  exact (h entry hmem).imp_right (himp entry.2)

theorem owned_ofExcept {level : Nat} {x : Except Fault Value}
    (h : ∀ f, x = .error f → f = .malformed ∨ p f) : Owned p (ofExcept level x).faults := by
  intro entry hmem
  cases x with
  | ok v => cases hmem
  | error f =>
      rw [List.mem_singleton.mp hmem]
      exact h f rfl

theorem firstFault_mem {entry : Nat × Fault} (h : firstFault faults = some entry) :
    entry ∈ faults := by
  fun_induction firstFault faults with
  | case1 => cases h
  | case2 _ _ _ _ _ hmore _ ih =>
      obtain rfl := Option.some.inj h
      exact List.mem_cons_of_mem _ (ih hmore)
  | case3 | case4 =>
      obtain rfl := Option.some.inj h
      exact List.mem_cons_self

end Built

namespace Node

open Built

theorem owned_keyed {level : Nat} {node : Node} {built : Built Value}
    (h : Owned node.Refused built.faults) : Owned node.Refused (keyed level node built).faults := by
  unfold keyed
  split
  · split
    · exact owned_nil
    · exact owned_malformed level
  · split
    · exact h
    · exact h.append (owned_malformed level)

theorem owned_pairs {tag : Tag} {pairs : List (Node × Node)} {faults : List (Nat × Fault)}
    (h : Owned (PairRefused pairs) faults) : Owned (Refused (.mapping tag pairs)) faults := by
  refine h.mono ?_
  rintro f ⟨pair, hmem, hpair | hpair⟩
  · exact .key hmem hpair
  · exact .value hmem hpair

theorem owned_text {tag : Tag} {pairs : List (Node × Node)} (level : Nat) {text : String}
    (hother : tag ≠ .timestamp) (hkey : valueText? pairs = some text) :
    Owned (Refused (.mapping tag pairs)) (ofExcept level (scalarValue tag text)).faults :=
  owned_ofExcept fun _ htext =>
    (malformed_or_mem_exact htext).imp_right fun htag => .valueKey htag hother hkey htext

theorem owned_firstItem {node : Node} {more : List Node} {faults : List (Nat × Fault)}
    (h : Owned node.Refused faults) : Owned (AnyRefused (node :: more)) faults :=
  h.mono fun _ h => ⟨node, List.mem_cons_self, h⟩

theorem owned_laterItems {node : Node} {more : List Node} {faults : List (Nat × Fault)}
    (h : Owned (AnyRefused more) faults) : Owned (AnyRefused (node :: more)) faults := by
  refine h.mono ?_
  rintro f ⟨other, hmem, h⟩
  exact ⟨other, List.mem_cons_of_mem node hmem, h⟩

theorem owned_laterPairs {pair : Node × Node} {more : List (Node × Node)}
    {faults : List (Nat × Fault)} (h : Owned (PairRefused more) faults) :
    Owned (PairRefused (pair :: more)) faults := by
  refine h.mono ?_
  rintro f ⟨other, hmem, h⟩
  exact ⟨other, List.mem_cons_of_mem pair hmem, h⟩

theorem owned_key {key value : Node} {more : List (Node × Node)} {faults : List (Nat × Fault)}
    (h : Owned key.Refused faults) : Owned (PairRefused ((key, value) :: more)) faults :=
  h.mono fun _ h => ⟨(key, value), List.mem_cons_self, .inl h⟩

theorem owned_value {key value : Node} {more : List (Node × Node)} {faults : List (Nat × Fault)}
    (h : Owned value.Refused faults) : Owned (PairRefused ((key, value) :: more)) faults :=
  h.mono fun _ h => ⟨(key, value), List.mem_cons_self, .inr h⟩

theorem owned_items {tag : Tag} {items : List Node} {faults : List (Nat × Fault)}
    (h : Owned (AnyRefused items) faults) : Owned (Refused (.sequence tag items)) faults := by
  refine h.mono ?_
  rintro f ⟨node, hmem, h⟩
  exact .item hmem h

mutual

/-- Building finds no other faults, whatever the level. -/
theorem owned_build : (level : Nat) → (node : Node) → Owned node.Refused (build level node).faults
  | level, .scalar tag text => by
      unfold build
      split
      case h_6 =>
        exact owned_ofExcept fun f htext =>
          (malformed_or_mem_exact htext).imp_right fun htag => .scalar htag htext
      all_goals exact owned_malformed _
  | level, .sequence tag items => by
      unfold build
      split
      · exact owned_items (owned_buildItems (level + 1) items)
      · exact owned_items (owned_buildSingles (level + 1) items)
      · exact owned_items (owned_buildSingles (level + 1) items)
      all_goals exact owned_malformed _
  | level, .mapping tag pairs => by
      have hentries : Owned (Refused (.mapping tag pairs))
          (if mergesFit pairs then (buildPairs (level + 1) pairs).all
            else ⟨[], [(level + 1, .malformed)]⟩).faults := by
        obtain ⟨hmerged, hown⟩ := owned_buildPairs (level + 1) pairs
        split
        · exact owned_pairs (hmerged.append hown)
        · exact owned_malformed _
      unfold build
      dsimp only
      split
      · exact hentries
      · exact hentries
      · exact owned_malformed _
      · exact owned_malformed _
      · exact owned_malformed _
      · split
        · rename_i hkey
          intro entry hmem
          rw [List.mem_singleton.mp hmem]
          exact .inr (.timestamp hkey)
        · exact owned_malformed _
      · rename_i hother
        split
        · rename_i text hkey
          exact owned_text level hother hkey
        · exact owned_malformed _

theorem owned_buildItems : (level : Nat) → (items : List Node) →
    Owned (AnyRefused items) (buildItems level items).faults
  | _, [] => owned_nil
  | level, node :: more => by
      unfold buildItems
      exact (owned_firstItem (owned_build level node)).append
        (owned_laterItems (owned_buildItems level more))

theorem owned_buildSingles : (level : Nat) → (items : List Node) →
    Owned (AnyRefused items) (buildSingles level items).faults
  | level, items => by
      unfold buildSingles
      split
      · exact owned_nil
      · rename_i key value more
        refine .append (owned_firstItem (owned_pairs ?_))
          (owned_laterItems (owned_buildSingles level more))
        exact (owned_key (owned_build level key)).append (owned_value (owned_build level value))
      · exact owned_malformed level

theorem owned_buildPairs : (level : Nat) → (pairs : List (Node × Node)) →
    Owned (PairRefused pairs) (buildPairs level pairs).merged.faults ∧
      Owned (PairRefused pairs) (buildPairs level pairs).own.faults
  | _, [] => ⟨owned_nil, owned_nil⟩
  | level, (key, value) :: more => by
      obtain ⟨hmerged, hown⟩ := owned_buildPairs level more
      unfold buildPairs
      dsimp only
      split
      · exact ⟨(owned_value (owned_buildMerged level value)).append (owned_laterPairs hmerged),
          owned_laterPairs hown⟩
      · refine ⟨owned_laterPairs hmerged, .append (.append ?_ ?_) (owned_laterPairs hown)⟩
        · exact owned_key (owned_keyed (owned_build level key))
        · exact owned_value (owned_build level value)

theorem owned_buildMerged : (level : Nat) → (node : Node) →
    Owned node.Refused (buildMerged level node).faults
  | _, .scalar _ _ => owned_nil
  | level, .sequence _ items => owned_items (owned_buildMergedList level items)
  | level, .mapping _ pairs => by
      obtain ⟨hmerged, hown⟩ := owned_buildPairs level pairs
      exact owned_pairs (hmerged.append hown)

theorem owned_buildMergedList : (level : Nat) → (items : List Node) →
    Owned (AnyRefused items) (buildMergedList level items).faults
  | level, items => by
      unfold buildMergedList
      split
      · exact owned_nil
      · rename_i tag pairs more
        obtain ⟨hmerged, hown⟩ := owned_buildPairs level pairs
        have hfirst : Owned (Refused (.mapping tag pairs)) (buildPairs level pairs).all.faults :=
          owned_pairs (hmerged.append hown)
        exact .append (owned_laterItems (owned_buildMergedList level more)) (owned_firstItem hfirst)
      · rename_i more _
        exact owned_laterItems (owned_buildMergedList level more)

end

theorem malformed_or_refused {node : Node} {f : Fault} (h : node.value = .error f) :
    f = .malformed ∨ node.Refused f := by
  unfold value at h
  dsimp only at h
  split at h
  · rename_i level fault hfirst
    obtain rfl := Except.error.inj h
    exact owned_build 0 node _ (firstFault_mem hfirst)
  · cases h

end Node

/-! ## Texts -/

/-- A fault of a text, other than being malformed: one that ends its tokens, or a text in its tree
that does not give what its tag asks for. -/
inductive Unreadable (s : String) (f : Fault) : Prop
  | token (hmem : .stop (some f) ∈ Token.ofText s)
  | scalar {node : Node} (htree : Node.ofTokens (Token.ofText s) = .ok (some node))
      (hnode : node.Refused f)

theorem malformed_or_unreadable {s : String} {f : Fault} (h : read s = .error f) :
    f = .malformed ∨ Unreadable s f := by
  unfold read at h
  split at h
  · rename_i htokens
    obtain rfl := Except.error.inj h
    exact (Node.blames_ofTokens _ _ htokens).imp_right .token
  · cases h
  · rename_i node htree
    exact (Node.malformed_or_refused h).imp_right (.scalar htree)

end NodeGraph.Yaml
