import NodeGraph.Proofs.Yaml.Blocks
import NodeGraph.Proofs.Yaml.Grouping
import NodeGraph.Value.Plain

/-!
# The value of a written document

A written value is read as `rereadAt` says: as itself, but for floats, which are read from their
shortest decimals, and texts that are broken far to the right. All texts are read as texts and all
keys as keys.
-/

namespace NodeGraph.Yaml

open Printer

/-! ## What is read -/

namespace Printer

mutual

/-- The value that is read where a value is written. -/
def rereadAt (spot : Spot) (indent column : ℕ) : Value → Value
  | .bool b => .bool b
  | .int n => .int n
  | .float x => .float x
  | .text s => .text (rereadText false (indent + 2) (column + 1) s)
  | .list items => .list (rereadItems (if spot = .behindKey then indent else indent + 2) items)
  | .map pairs => Value.mapOf (rereadPairs (indent + 2) pairs)
  | _ => .null

def rereadItems (indent : ℕ) : List Value → List Value
  | [] => []
  | item :: items => rereadAt .behindMark indent (indent + 1) item :: rereadItems indent items

def rereadPair (indent : ℕ) : Value × Value → Value × Value
  | (.text key, value) =>
    if isSimpleKey key then
      (.text key, rereadAt .behindKey indent
        (indent + (textAt true (indent + 2) indent key).length + 1) value)
    else
      (.text (rereadText false (indent + 2) (indent + 2) key),
        rereadAt .behindMark indent (indent + 1) value)
  | (_, value) => (.text "", rereadAt .behindMark indent (indent + 1) value)

def rereadPairs (indent : ℕ) : List (Value × Value) → List (Value × Value)
  | [] => []
  | pair :: pairs => rereadPair indent pair :: rereadPairs indent pairs

end

end Printer

/-! ## Scalars -/

/-- A text is tagged as one, be it plain or quoted. -/
theorem Scalar.node_ofText (isKey : Bool) (indent column : ℕ) (s : String) :
    (Scalar.ofText isKey indent column s).node =
      .scalar .str (rereadText isKey indent column s) := by
  rw [Scalar.ofText, Scalar.node]
  cases hstyle : styleOf isKey s with
  | plain =>
      have hsame : rereadText isKey indent column s = s := by rw [rereadText, hstyle]
      rw [hsame]
      show Node.scalar (.ofPlain s) s = _
      rw [(of_styleOf_plain hstyle).1]
  | single => rfl
  | double => rfl

/-- What a value is built to. -/
def Builds (v : Value) : Prop :=
  ∀ (spot : Spot) (indent column level : ℕ),
    Node.build level (treeAt spot indent column v).node = ⟨rereadAt spot indent column v, []⟩

theorem builds_int {n : ℤ} (h : Value.isWritable (.int n) = true) : Builds (.int n) := by
  intro spot indent column level
  have hlength : (Nat.toDigits 10 n.natAbs).length ≤ decimalLimit := of_decide_eq_true h
  show Node.build level (.scalar (.ofPlain (toString n)) (toString n)) = ⟨.int n, []⟩
  rw [ofPlain_toString]
  show Built.ofExcept level (readInt (toString n).toList) = _
  rw [readInt_toString hlength]
  rfl

theorem builds_float (x : Double) : Builds (.float x) := by
  intro spot indent column level
  show Node.build level (.scalar (.ofPlain (String.ofList (floatText x)))
    (String.ofList (floatText x))) = ⟨.float x, []⟩
  rw [ofPlain_floatText]
  show Built.ofExcept level (readFloat (String.ofList (floatText x)).toList) = _
  rw [String.toList_ofList, readFloat_floatText]
  rfl

theorem builds_text (s : String) : Builds (.text s) := by
  intro spot indent column level
  show Node.build level (Scalar.ofText false (indent + 2) (column + 1) s).node = _
  rw [Scalar.node_ofText]
  rfl

theorem builds_bool (b : Bool) : Builds (.bool b) := by
  intro spot indent column level
  set word := if b then "true" else "false" with hword
  have htag : Tag.ofPlain word = .bool := by
    cases b <;> decide +kernel
  have hread : truthWords.lookup (word.map lowerChar) = some b := by
    cases b <;> decide +kernel
  show Node.build level (.scalar (.ofPlain word) word) = ⟨.bool b, []⟩
  rw [htag]
  simp only [Node.build, scalarValue, hread]
  rfl

theorem builds_null : Builds .null := by
  intro spot indent column level
  rfl

/-! ## Sequences -/

theorem buildItems_nodes {items : List Value} (hitems : ∀ v ∈ items, Builds v)
    (indent level : ℕ) :
    Node.buildItems level (Tree.nodes (itemTrees indent items)) =
      ⟨rereadItems indent items, []⟩ := by
  induction items with
  | nil => rfl
  | cons v items ih =>
      obtain ⟨hv, hmore⟩ := List.forall_mem_cons.mp hitems
      simp only [itemTrees, Tree.nodes, Node.buildItems, hv .behindMark indent (indent + 1) level,
        ih hmore, rereadItems, List.append_nil]

theorem builds_list {items : List Value} (hitems : ∀ v ∈ items, Builds v) :
    Builds (.list items) := by
  intro spot indent column level
  simp only [treeAt, Tree.node, Node.build, buildItems_nodes hitems, Built.map, rereadAt]

/-! ## Mappings -/

section

variable {value : Value} {pairs : List (Value × Value)}

/-- The node of a key is a text, and that of its value is built to what is read. -/
theorem exists_rereadPair (key : String) (hvalue : Builds value) (indent : ℕ) :
    ∃ name w, rereadPair indent (.text key, value) = (.text name, w) ∧
      (pairTree indent (.text key, value)).1.node = .scalar .str name ∧
      ∀ level, Node.build level (pairTree indent (.text key, value)).2.node = ⟨w, []⟩ := by
  rw [pairTree, rereadPair]
  split
  · have hname := Scalar.node_ofText true (indent + 2) indent key
    rw [Scalar.ofText, rereadText_key _ _ _ (Nat.succ_pos _)] at hname
    exact ⟨key, _, rfl, hname, fun level => hvalue _ _ _ level⟩
  · exact ⟨_, _, rfl, Scalar.node_ofText false (indent + 2) (indent + 2) key,
      fun level => hvalue _ _ _ level⟩

/-- No key takes over the pairs of other mappings. -/
theorem buildPairs_pairNodes (hkeys : pairKeysFit pairs = true)
    (hvalues : ∀ pair ∈ pairs, Builds pair.2) (indent level : ℕ) :
    Node.mergesFit (Tree.pairNodes (pairTrees indent pairs)) = true ∧
      Node.buildPairs level (Tree.pairNodes (pairTrees indent pairs)) =
        ⟨⟨[], []⟩, ⟨rereadPairs indent pairs, []⟩⟩ := by
  induction pairs with
  | nil => exact ⟨rfl, rfl⟩
  | cons pair pairs ih =>
      obtain ⟨key, value, rfl, -, -, hmore⟩ := exists_of_pairKeysFit hkeys
      obtain ⟨hvalue, hvalues⟩ := List.forall_mem_cons.mp hvalues
      obtain ⟨hfit, hbuild⟩ := ih hmore hvalues
      obtain ⟨name, w, hpair, hkey, hread⟩ := exists_rereadPair key hvalue indent
      have hkeyed : Node.keyed level (.scalar .str name) (Node.build level (.scalar .str name)) =
          ⟨.text name, []⟩ := rfl
      rw [pairTrees, Tree.pairNodes, hkey, rereadPairs, hpair]
      refine ⟨hfit, ?_⟩
      rw [Node.buildPairs, if_neg (by simp [Node.tag]), hkeyed, hread, hbuild]
      rfl

theorem builds_map (hkeys : pairKeysFit pairs = true) (hvalues : ∀ pair ∈ pairs, Builds pair.2) :
    Builds (.map pairs) := by
  intro spot indent column level
  obtain ⟨hfit, hbuild⟩ := buildPairs_pairNodes hkeys hvalues (indent + 2) (level + 1)
  simp only [treeAt, Tree.node, Node.build, hfit, if_true, hbuild, rereadAt]
  rfl

end

/-! ## All values -/

mutual

/-- Every value that can be written is built to what `rereadAt` says, without a fault. -/
theorem builds : (v : Value) → keysFit v = true → v.isWritable = true → Builds v
  | .list items, h, hints => builds_list (builds_items items h hints)
  | .map pairs, h, hints => builds_map h (builds_pairs pairs h hints)
  | .bool b, _, _ => builds_bool b
  | .int _, _, hints => builds_int hints
  | .float x, _, _ => builds_float x
  | .text s, _, _ => builds_text s
  | .null, _, _ => builds_null
  | .bytes _, _, _ | .date _, _, _ | .dateTime _, _, _ | .tuple _, _, _ | .set _, _, _ =>
      builds_null

theorem builds_items : (items : List Value) → itemKeysFit items = true →
    Value.areWritable items = true → ∀ v ∈ items, Builds v
  | [], _, _ => by simp
  | v :: items, h, hints => by
      simp only [itemKeysFit, Value.areWritable, Bool.and_eq_true] at h hints
      exact List.forall_mem_cons.mpr
        ⟨builds v h.1 hints.1, builds_items items h.2 hints.2⟩

theorem builds_pairs : (pairs : List (Value × Value)) → pairKeysFit pairs = true →
    Value.entriesWritable pairs = true → ∀ pair ∈ pairs, Builds pair.2
  | [], _, _ => by simp
  | (key, v) :: pairs, h, hints => by
      obtain ⟨key, v', heq, -, hvalue, hmore⟩ := exists_of_pairKeysFit h
      cases heq
      simp only [Value.entriesWritable, Bool.and_eq_true] at hints
      exact List.forall_mem_cons.mpr
        ⟨builds v hvalue hints.1.2, builds_pairs pairs hmore hints.2⟩

end

/-- A written mapping is read as what `rereadPairs` says. -/
theorem read_print {pairs : List (Value × Value)} (h : keysFit (.map pairs) = true)
    (hints : Value.entriesWritable pairs = true) :
    read (print pairs) = .ok (Value.mapOf (rereadPairs 0 pairs)) := by
  obtain ⟨hfit, hbuild⟩ := buildPairs_pairNodes h (builds_pairs pairs h hints) 0 1
  have hvalue : (Tree.mapping (pairTrees 0 pairs)).node.value =
      .ok (Value.mapOf (rereadPairs 0 pairs)) := by
    simp only [Tree.node, Node.value, Node.build, hfit, if_true, hbuild]
    rfl
  simp only [read, ofText_print h, Tree.ofTokens_tokens, hvalue]

end NodeGraph.Yaml
