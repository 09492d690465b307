import Mathlib.Data.List.Induction
import NodeGraph.Graph.Decode
import NodeGraph.Project
import NodeGraph.Proofs.Schema
import NodeGraph.Proofs.Table
import NodeGraph.Value.Plain

/-!
# Mappings with text keys

The entries of a mapping whose keys are texts are those of a table, and are put in like them.
-/

namespace NodeGraph

namespace Table

variable {α : Type} {entries : List (String × α)}

theorem ofPairs_append (entries : List (String × α)) (key : String) (v : α) :
    ofPairs (entries ++ [(key, v)]) = (ofPairs entries).insert key v := by
  simp [ofPairs]

/-- Pairs with distinct keys stay as they are. -/
theorem entries_ofPairs (h : (entries.map Prod.fst).Nodup) :
    (ofPairs entries).entries = entries := by
  induction entries using List.reverseRecOn with
  | nil => rfl
  | append_singleton entries entry ih =>
      obtain ⟨key, v⟩ := entry
      rw [List.map_append, List.nodup_append] at h
      have hentries := ih h.1
      have hnew : key ∉ (ofPairs entries).keys := by
        rw [keys, hentries]
        exact fun hmem => h.2.2 key hmem key (by simp) rfl
      rw [ofPairs_append, entries_insert_of_notMem hnew, hentries]

end Table

namespace Value

/-- Entries under texts as those of a mapping. -/
def textEntries (entries : List (String × Value)) : List (Value × Value) :=
  entries.map fun (key, v) => (.text key, v)

variable {entries : List (String × Value)}

theorem insert_textEntries (key : String) (v : Value) (entries : List (String × Value)) :
    insert (.text key) v (textEntries entries) = textEntries (Table.insertEntry key v entries) := by
  induction entries with
  | nil => rfl
  | cons entry entries ih =>
      obtain ⟨k, w⟩ := entry
      have hkeys : (Value.text key).eqv (.text k) = true ↔ k = key := by
        rw [text_eqv_iff, Value.text.injEq]
      show (if (Value.text key).eqv (.text k) then _ else _) =
        textEntries (if k = key then _ else _)
      by_cases h : k = key
      · rw [if_pos (hkeys.mpr h), if_pos h]
        subst h
        rfl
      · rw [if_neg (mt hkeys.mp h), if_neg h]
        exact congrArg ((Value.text k, w) :: ·) ih

/-- Pairs with text keys are put in like those of a table. -/
theorem mapOf_textEntries (entries : List (String × Value)) :
    mapOf (textEntries entries) = .map (textEntries (Table.ofPairs entries).entries) := by
  rw [mapOf]
  congr 1
  induction entries using List.reverseRecOn with
  | nil => rfl
  | append_singleton entries entry ih =>
      obtain ⟨key, v⟩ := entry
      rw [Table.ofPairs_append, Table.insert]
      simp only [textEntries, List.map_append, List.foldl_append, List.map_cons, List.map_nil,
        List.foldl_cons, List.foldl_nil] at ih ⊢
      rw [ih]
      exact insert_textEntries key v _

theorem mapOf_of_nodup (h : (entries.map Prod.fst).Nodup) :
    mapOf (textEntries entries) = .map (textEntries entries) := by
  rw [mapOf_textEntries, Table.entries_ofPairs h]

/-! ## Looking up texts -/

section

variable {k v : Value} {name : String} {pairs : List (Value × Value)}

theorem field?_cons :
    field? name ((k, v) :: pairs) =
      if (text name).eqv k then some v else field? name pairs := by
  unfold field? lookup
  rw [List.find?_cons]
  split
  · rename_i heq
    rw [if_pos heq]
    rfl
  · rename_i heq
    rw [if_neg (by simpa using heq)]

/-- The value that is put in is found under its own key, and changes nothing under others. -/
theorem field?_insert :
    field? name (insert k v pairs) =
      if (text name).eqv k then some v else field? name pairs := by
  induction pairs with
  | nil => rw [insert, field?_cons]
  | cons entry more ih =>
      obtain ⟨key, w⟩ := entry
      unfold insert
      by_cases hkey : k.eqv key = true
      · -- no other key than the text itself is equal to it
        have hiff : (text name).eqv key = true ↔ (text name).eqv k = true := by
          constructor
          · intro h
            obtain rfl := text_eqv_iff.mp h
            exact text_eqv_iff.mpr (eqv_text_iff.mp hkey)
          · intro h
            obtain rfl := text_eqv_iff.mp h
            exact hkey
        rw [if_pos hkey, field?_cons, field?_cons]
        by_cases hk : (text name).eqv k = true
        · rw [if_pos hk, if_pos (hiff.mpr hk)]
        · rw [if_neg hk, if_neg (mt hiff.mp hk), if_neg (mt hiff.mp hk)]
      · rw [if_neg hkey, field?_cons, field?_cons, ih]
        by_cases hk : (text name).eqv k = true
        · have hother : ¬ (text name).eqv key = true := by
            intro h
            obtain rfl := text_eqv_iff.mp h
            exact hkey (eqv_text_iff.mpr (text_eqv_iff.mp hk))
          rw [if_pos hk, if_pos hk, if_neg hother]
        · rw [if_neg hk, if_neg hk]

end

theorem hasTextKeys_textEntries (entries : List (String × Value)) :
    hasTextKeys (textEntries entries) = true := by
  simp [hasTextKeys, textEntries]

end Value

open Schema

/-- A mapping with text keys is read as field values. -/
theorem Fields.decode_textEntries (entries : List (String × Value)) :
    Fields.decode (.map (Value.textEntries entries)) =
      .good (Value.textEntries (Table.ofPairs entries).entries) := by
  have hall : Schema.entries any (.map (Value.textEntries entries)) = .good entries := by
    induction entries with
    | nil => rfl
    | cons entry entries ih =>
        simp only [Schema.entries, Value.textEntries, List.map_cons, Checked.all] at ih ⊢
        rw [ih]
        rfl
  rw [Fields.decode, hall]
  rfl

end NodeGraph
