import NodeGraph.Proofs.Mapping
import NodeGraph.Proofs.Number.Shortest
import NodeGraph.Proofs.Yaml.Building

/-!
# Plain values in documents

A plain value is read back as it was written, unless a text in it stands so far to the right that
its lines are broken behind an escape.
-/

namespace NodeGraph

namespace Value

mutual

/-- Whether no mapping in a value has a key twice. -/
def Exact : Value → Prop
  | .list items => AllExact items
  | .map pairs => (pairs.map Prod.fst).Nodup ∧ EntriesExact pairs
  | _ => True

def AllExact : List Value → Prop
  | [] => True
  | v :: vs => Exact v ∧ AllExact vs

def EntriesExact : List (Value × Value) → Prop
  | [] => True
  | (_, v) :: more => Exact v ∧ EntriesExact more

end

mutual

/-- How deep collections are nested. -/
def depth : Value → ℕ
  | .list items => itemsDepth items + 1
  | .map pairs => pairsDepth pairs + 1
  | _ => 0

def itemsDepth : List Value → ℕ
  | [] => 0
  | v :: vs => max (depth v) (itemsDepth vs)

def pairsDepth : List (Value × Value) → ℕ
  | [] => 0
  | (_, v) :: more => max (depth v) (pairsDepth more)

end

theorem exists_of_entriesPlain {first : Value × Value} {more : List (Value × Value)}
    (h : entriesPlain (first :: more) = true) :
    ∃ key v, first = (.text key, v) ∧ v.isPlain = true ∧ entriesPlain more = true := by
  obtain ⟨key, v⟩ := first
  cases key with
  | text key =>
      simp only [entriesPlain, Bool.and_eq_true] at h
      exact ⟨key, v, rfl, h.1, h.2⟩
  | _ => cases h

/-- The keys of a plain mapping are texts. -/
theorem exists_textEntries {pairs : List (Value × Value)} (h : entriesPlain pairs = true) :
    ∃ entries, pairs = textEntries entries := by
  induction pairs with
  | nil => exact ⟨[], rfl⟩
  | cons first more ih =>
      obtain ⟨key, v, rfl, -, hmore⟩ := exists_of_entriesPlain h
      obtain ⟨entries, rfl⟩ := ih hmore
      exact ⟨(key, v) :: entries, rfl⟩

theorem nodup_of_textEntries {entries : List (String × Value)}
    (h : ((textEntries entries).map Prod.fst).Nodup) : (entries.map Prod.fst).Nodup := by
  have hkeys : (textEntries entries).map Prod.fst = (entries.map Prod.fst).map Value.text := by
    simp [textEntries]
  rw [hkeys] at h
  exact h.of_map

/-- A mapping of plain values with distinct keys is put together to itself. -/
theorem mapOf_of_plain {pairs : List (Value × Value)} (h : entriesPlain pairs = true)
    (hdistinct : (pairs.map Prod.fst).Nodup) : mapOf pairs = .map pairs := by
  obtain ⟨entries, rfl⟩ := exists_textEntries h
  exact mapOf_of_nodup (nodup_of_textEntries hdistinct)

end Value

namespace Yaml

open Printer

mutual

/-- Whether no text in a value is broken so that something is lost. -/
def TextsSurvive (spot : Spot) (indent : ℕ) : Value → Prop
  | .text s => Survives false (indent + 2) s
  | .list items => ItemsSurvive (if spot = .behindKey then indent else indent + 2) items
  | .map pairs => PairsSurvive (indent + 2) pairs
  | _ => True

def ItemsSurvive (indent : ℕ) : List Value → Prop
  | [] => True
  | item :: items => TextsSurvive .behindMark indent item ∧ ItemsSurvive indent items

def PairsSurvive (indent : ℕ) : List (Value × Value) → Prop
  | [] => True
  | (.text key, value) :: pairs =>
    (if isSimpleKey key then TextsSurvive .behindKey indent value
      else Survives false (indent + 2) key ∧ TextsSurvive .behindMark indent value) ∧
      PairsSurvive indent pairs
  | _ => True

end

mutual

/-- Texts survive where collections are not nested so deep that they reach the end of a line. -/
theorem textsSurvive_of_depth (spot : Spot) (indent : ℕ) :
    (v : Value) → indent + 2 * v.depth + 2 < width → TextsSurvive spot indent v
  | .text _, h => fun _ hwidth => absurd hwidth (by simp only [Value.depth] at h; omega)
  | .list items, h => by
      simp only [Value.depth] at h
      exact itemsSurvive_of_depth _ items (by split <;> omega)
  | .map pairs, h => by
      simp only [Value.depth] at h
      exact pairsSurvive_of_depth (indent + 2) pairs (by omega)
  | .null, _ | .bool _, _ | .int _, _ | .float _, _ | .bytes _, _ | .date _, _ | .dateTime _, _
  | .tuple _, _ | .set _, _ => trivial

theorem itemsSurvive_of_depth (indent : ℕ) :
    (items : List Value) → indent + 2 * Value.itemsDepth items + 2 < width →
      ItemsSurvive indent items
  | [], _ => trivial
  | v :: items, h => by
      simp only [Value.itemsDepth] at h
      exact ⟨textsSurvive_of_depth .behindMark indent v (by omega),
        itemsSurvive_of_depth indent items (by omega)⟩

theorem pairsSurvive_of_depth (indent : ℕ) :
    (pairs : List (Value × Value)) → indent + 2 * Value.pairsDepth pairs + 2 < width →
      PairsSurvive indent pairs
  | [], _ => trivial
  | (.text key, v) :: pairs, h => by
      simp only [Value.pairsDepth] at h
      have hvalue := fun spot => textsSurvive_of_depth spot indent v (by omega)
      refine ⟨?_, pairsSurvive_of_depth indent pairs (by omega)⟩
      split
      · exact hvalue .behindKey
      · exact ⟨fun _ hwidth => absurd hwidth (by omega), hvalue .behindMark⟩
  | (.null, _) :: _, _ | (.bool _, _) :: _, _ | (.int _, _) :: _, _ | (.float _, _) :: _, _
  | (.bytes _, _) :: _, _ | (.date _, _) :: _, _ | (.dateTime _, _) :: _, _ | (.list _, _) :: _, _
  | (.tuple _, _) :: _, _ | (.map _, _) :: _, _ | (.set _, _) :: _, _ => trivial

end

theorem rereadText_eq {isKey : Bool} {indent : ℕ} (column : ℕ) {s : String}
    (h : Survives isKey indent s) (hindent : 0 < indent) :
    rereadText isKey indent column s = s :=
  (spells_textAt isKey column s hindent (Nat.zero_le indent)).2 h

mutual

/-- A plain value is read as itself wherever its texts survive. -/
theorem rereadAt_eq (spot : Spot) (indent column : ℕ) : (v : Value) → v.isPlain = true → v.Exact →
    TextsSurvive spot indent v → rereadAt spot indent column v = v
  | .null, _, _, _ | .bool _, _, _, _ | .int _, _, _, _ | .float _, _, _, _ => rfl
  | .text s, _, _, hsurvive =>
      congrArg Value.text (rereadText_eq (column + 1) hsurvive (Nat.succ_pos (indent + 1)))
  | .list items, h, hexact, hsurvive =>
      congrArg Value.list (rereadItems_eq _ items h hexact hsurvive)
  | .map pairs, h, hexact, hsurvive => by
      rw [rereadAt, rereadPairs_eq (indent + 2) pairs h hexact.2 hsurvive]
      exact Value.mapOf_of_plain h hexact.1

theorem rereadItems_eq (indent : ℕ) : (items : List Value) → Value.arePlain items = true →
    Value.AllExact items → ItemsSurvive indent items → rereadItems indent items = items
  | [], _, _, _ => rfl
  | v :: items, h, hexact, hsurvive => by
      simp only [Value.arePlain, Bool.and_eq_true] at h
      rw [rereadItems, rereadAt_eq .behindMark indent (indent + 1) v h.1 hexact.1 hsurvive.1,
        rereadItems_eq indent items h.2 hexact.2 hsurvive.2]

theorem rereadPairs_eq (indent : ℕ) : (pairs : List (Value × Value)) →
    Value.entriesPlain pairs = true → Value.EntriesExact pairs → PairsSurvive indent pairs →
    rereadPairs indent pairs = pairs
  | [], _, _, _ => rfl
  | (.text key, v) :: pairs, h, hexact, hsurvive => by
      simp only [Value.entriesPlain, Bool.and_eq_true] at h
      rw [rereadPairs, rereadPairs_eq indent pairs h.2 hexact.2 hsurvive.2, rereadPair]
      have hpair := hsurvive.1
      split at hpair
      · rename_i hsimple
        rw [if_pos hsimple, rereadAt_eq .behindKey indent _ v h.1 hexact.1 hpair]
      · rename_i hsimple
        rw [if_neg hsimple, rereadText_eq (indent + 2) hpair.1 (Nat.succ_pos (indent + 1)),
          rereadAt_eq .behindMark indent _ v h.1 hexact.1 hpair.2]

end

end Yaml

end NodeGraph
