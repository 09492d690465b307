import NodeGraph.Table

/-!
# Looking up in tables

What is stored under a key after a table was changed, and tables whose values know their keys.
-/

namespace NodeGraph.Table

universe u

variable {α : Type u} {t t' : Table α} {key k : String} {v w : α} {p : String → α → Bool}

/-! ## Entries -/

theorem mem_entries_iff : (k, v) ∈ t.entries ↔ t.get? k = some v := by
  obtain ⟨entries, hnodup⟩ := t
  show (k, v) ∈ entries ↔ entries.lookup k = some v
  induction entries with
  | nil => simp
  | cons entry rest ih =>
      obtain ⟨j, w⟩ := entry
      rw [List.map_cons, List.nodup_cons] at hnodup
      have ih := ih hnodup.2
      by_cases hkey : k = j
      · subst hkey
        -- the keys are distinct, so the first entry is the only one under its key
        have hnot : (k, v) ∉ rest := by
          intro hmem
          exact hnodup.1 (List.mem_map.mpr ⟨(k, v), hmem, rfl⟩)
        simp [hnot, eq_comm]
      · simp [List.lookup_cons, beq_false_of_ne hkey, hkey, ih]

theorem mem_keys_iff : k ∈ t.keys ↔ ∃ v, t.get? k = some v := by
  simp [keys, mem_entries_iff]

theorem mem_values_iff : v ∈ t.values ↔ ∃ k, t.get? k = some v := by
  simp [values, mem_entries_iff]

theorem contains_iff : t.contains k = true ↔ k ∈ t.keys := List.contains_iff_mem

@[simp] theorem get?_empty : (empty : Table α).get? k = none := rfl

theorem get?_filter_eq_some_iff :
    (t.filter p).get? k = some v ↔ t.get? k = some v ∧ p k v = true := by
  rw [← mem_entries_iff, ← mem_entries_iff]
  exact List.mem_filter

theorem get?_erase_eq_some_iff :
    (t.erase key).get? k = some v ↔ t.get? k = some v ∧ k ≠ key := by
  rw [erase, get?_filter_eq_some_iff, decide_eq_true_iff]

theorem mem_keys_erase : k ∈ (t.erase key).keys ↔ k ∈ t.keys ∧ k ≠ key := by
  simp [mem_keys_iff, get?_erase_eq_some_iff]

/-! ## Filtering -/

theorem eq_of_entries (h : t.entries = t'.entries) : t = t' := by
  cases t
  cases t'
  cases h
  rfl

theorem values_filter (t : Table α) (p : α → Bool) :
    (t.filter fun _ a => p a).values = t.values.filter p := by
  rw [values, values, List.filter_map]
  rfl

theorem filter_comm (t : Table α) (p q : String → α → Bool) :
    (t.filter p).filter q = (t.filter q).filter p := by
  apply eq_of_entries
  show (t.entries.filter _).filter _ = (t.entries.filter _).filter _
  rw [List.filter_filter, List.filter_filter]
  exact List.filter_congr fun entry _ => Bool.and_comm _ _

/-! ## Putting in twice -/

theorem insertEntry_insertEntry (key : String) (v w : α) (entries : List (String × α)) :
    insertEntry key w (insertEntry key v entries) = insertEntry key w entries := by
  induction entries with
  | nil => simp [insertEntry]
  | cons entry rest ih =>
      obtain ⟨k, u⟩ := entry
      by_cases hkey : k = key
      · simp [insertEntry, hkey]
      · simp [insertEntry, hkey, ih]

theorem insert_insert (t : Table α) (key : String) (v w : α) :
    (t.insert key v).insert key w = t.insert key w := by
  simp only [insert, insertEntry_insertEntry]

/-! ## New keys -/

theorem entries_insert_of_notMem (h : key ∉ t.keys) :
    (t.insert key v).entries = t.entries ++ [(key, v)] := by
  obtain ⟨entries, hnodup⟩ := t
  show insertEntry key v entries = entries ++ [(key, v)]
  induction entries with
  | nil => rfl
  | cons entry rest ih =>
      obtain ⟨k, w⟩ := entry
      have hne : k ≠ key := by
        rintro rfl
        exact h List.mem_cons_self
      have hrest : key ∉ rest.map Prod.fst := fun hmem => h (List.mem_cons_of_mem _ hmem)
      rw [insertEntry, if_neg hne, ih (List.nodup_cons.mp hnodup).2 hrest, List.cons_append]

theorem keys_insert_of_notMem (h : key ∉ t.keys) : (t.insert key v).keys = t.keys ++ [key] := by
  rw [keys_insert, if_neg h]

/-- Taking out a new key again leaves the table as it was. -/
theorem erase_insert_of_notMem (h : key ∉ t.keys) : (t.insert key v).erase key = t := by
  apply eq_of_entries
  show (t.insert key v).entries.filter (fun entry => decide (entry.1 ≠ key)) = t.entries
  rw [entries_insert_of_notMem h, List.filter_append]
  have hkept : ∀ entry ∈ t.entries, decide (entry.1 ≠ key) = true := by
    intro entry hentry
    refine decide_eq_true ?_
    rintro rfl
    exact h (List.mem_map.mpr ⟨entry, hentry, rfl⟩)
  rw [List.filter_eq_self.mpr hkept]
  simp

/-! ## Keys that are there -/

theorem exists_insertEntry {entries : List (String × α)} (h : entries.lookup key = some w) (v : α) :
    ∃ pre post, entries = pre ++ (key, w) :: post ∧
      insertEntry key v entries = pre ++ (key, v) :: post := by
  induction entries with
  | nil => cases h
  | cons entry rest ih =>
      obtain ⟨k, u⟩ := entry
      by_cases hkey : k = key
      · subst hkey
        obtain rfl : u = w := by simpa using h
        exact ⟨[], rest, rfl, by simp [insertEntry]⟩
      · have hne : (key == k) = false := beq_false_of_ne fun heq => hkey heq.symm
        rw [List.lookup_cons, hne] at h
        obtain ⟨pre, post, rfl, hinsert⟩ := ih h
        exact ⟨(k, u) :: pre, post, rfl, by rw [insertEntry, if_neg hkey, hinsert, List.cons_append]⟩

/-- Only the entry under the key changes, and it stays where it is. -/
theorem exists_entries_insert (h : t.get? key = some w) (v : α) :
    ∃ pre post, t.entries = pre ++ (key, w) :: post ∧
      (t.insert key v).entries = pre ++ (key, v) :: post :=
  exists_insertEntry h v

theorem exists_values_insert (h : t.get? key = some w) (v : α) :
    ∃ pre post, t.values = pre ++ w :: post ∧ (t.insert key v).values = pre ++ v :: post := by
  obtain ⟨pre, post, hbefore, hafter⟩ := exists_entries_insert h v
  refine ⟨pre.map Prod.snd, post.map Prod.snd, ?_, ?_⟩
  · rw [values, hbefore, List.map_append, List.map_cons]
  · rw [values, hafter, List.map_append, List.map_cons]

/-! ## Tables with the same keys -/

theorem map_entries_some (t : Table α) :
    t.entries.map (fun entry => (entry.1, some entry.2)) = t.keys.map fun k => (k, t.get? k) := by
  rw [keys, List.map_map]
  refine List.map_congr_left ?_
  rintro ⟨k, v⟩ hmem
  simp only [Function.comp_apply, mem_entries_iff.mp hmem]

/-- Tables with the same keys in the same order and the same values under them are equal. -/
theorem eq_of_keys (hkeys : t.keys = t'.keys) (hget : ∀ k, t.get? k = t'.get? k) : t = t' := by
  apply eq_of_entries
  have hinjective : ∀ e e' : String × α, (e.1, some e.2) = (e'.1, some e'.2) → e = e' := by
    rintro ⟨k, v⟩ ⟨k', v'⟩ h
    simpa using h
  refine (List.map_inj_right hinjective).mp ?_
  rw [map_entries_some, map_entries_some, hkeys]
  exact List.map_congr_left fun k _ => by rw [hget]

/-! ## Putting in many -/

/-- The table with the pairs put in one after the other. -/
def insertAll (t : Table α) (pairs : List (String × α)) : Table α :=
  pairs.foldl (fun t (k, v) => t.insert k v) t

theorem mem_keys_insertAll {pairs : List (String × α)} :
    k ∈ (t.insertAll pairs).keys ↔ k ∈ t.keys ∨ k ∈ pairs.map Prod.fst := by
  induction pairs generalizing t with
  | nil => simp [insertAll]
  | cons pair pairs ih =>
      show k ∈ ((t.insert pair.1 pair.2).insertAll pairs).keys ↔ _
      rw [ih, mem_keys_insert, List.map_cons, List.mem_cons, or_assoc]

/-- Values under keys that are there leave the keys as they are. -/
theorem keys_insertAll {pairs : List (String × α)} (h : pairs.map Prod.fst ⊆ t.keys) :
    (t.insertAll pairs).keys = t.keys := by
  induction pairs generalizing t with
  | nil => rfl
  | cons pair pairs ih =>
      rw [List.map_cons, List.cons_subset] at h
      have hinsert : (t.insert pair.1 pair.2).keys = t.keys := by rw [keys_insert, if_pos h.1]
      show ((t.insert pair.1 pair.2).insertAll pairs).keys = _
      rw [ih (hinsert.symm ▸ h.2), hinsert]

/-- Of several values under the same key the last one stays. -/
theorem get?_insertAll {pairs : List (String × α)} :
    (t.insertAll pairs).get? k = (pairs.reverse.lookup k).or (t.get? k) := by
  induction pairs generalizing t with
  | nil => rfl
  | cons pair pairs ih =>
      obtain ⟨key, v⟩ := pair
      show ((t.insert key v).insertAll pairs).get? k = _
      rw [ih, get?_insert, List.reverse_cons, List.lookup_append, Option.or_assoc]
      by_cases hkey : k = key
      · simp [hkey]
      · simp [hkey, List.lookup_cons, beq_false_of_ne hkey]

theorem insertAll_insertAll_self (t : Table α) (pairs : List (String × α)) :
    (t.insertAll pairs).insertAll pairs = t.insertAll pairs := by
  have hkeys : pairs.map Prod.fst ⊆ (t.insertAll pairs).keys := fun _ hk =>
    mem_keys_insertAll.mpr (.inr hk)
  refine eq_of_keys (keys_insertAll hkeys) fun k => ?_
  rw [get?_insertAll, get?_insertAll, ← Option.or_assoc, Option.or_self]

/-! ## Values under ids of their own -/

/-- The table of values under distinct ids. -/
def under (id : α → String) (xs : List α) (h : (xs.map id).Nodup) : Table α :=
  ⟨xs.map fun x => (id x, x), by rwa [List.map_map]⟩

theorem keys_under (id : α → String) (xs : List α) (h : (xs.map id).Nodup) :
    (under id xs h).keys = xs.map id := by
  simp [keys, under, Function.comp_def]

theorem values_under (id : α → String) (xs : List α) (h : (xs.map id).Nodup) :
    (under id xs h).values = xs := by
  simp [values, under, Function.comp_def]

/-! ## Values that know their keys -/

/-- Every value is stored under the key that `id` reads off it. -/
def Keyed (id : α → String) (t : Table α) : Prop :=
  ∀ key a, t.get? key = some a → id a = key

namespace Keyed

variable {id : α → String}

theorem empty : (Table.empty : Table α).Keyed id := by
  intro key a h
  rw [get?_empty] at h
  cases h

theorem insert (h : t.Keyed id) (a : α) : (t.insert (id a) a).Keyed id := by
  intro key b hget
  rw [get?_insert] at hget
  split at hget
  · rename_i hkey
    rw [← Option.some.inj hget, hkey]
  · exact h key b hget

theorem filter (h : t.Keyed id) (p : String → α → Bool) : (t.filter p).Keyed id := by
  intro key a hget
  exact h key a (get?_filter_eq_some_iff.mp hget).1

theorem erase (h : t.Keyed id) (key : String) : (t.erase key).Keyed id := h.filter _

theorem under {xs : List α} (h : (xs.map id).Nodup) : (Table.under id xs h).Keyed id := by
  intro key a hget
  obtain ⟨x, _, hx⟩ := List.mem_map.mp (mem_entries_iff.mpr hget)
  cases hx
  rfl

theorem map_values (h : t.Keyed id) : t.values.map id = t.keys := by
  rw [values, keys, List.map_map]
  refine List.map_congr_left ?_
  rintro ⟨key, a⟩ hmem
  exact h key a (mem_entries_iff.mp hmem)

/-- Under their own keys, values are taken out by these. -/
theorem values_erase (h : t.Keyed id) (key : String) :
    (t.erase key).values = t.values.filter (id · ≠ key) := by
  rw [values, values, List.filter_map]
  refine congrArg (List.map Prod.snd) (List.filter_congr ?_)
  rintro ⟨k, a⟩ hmem
  simp only [Function.comp_apply, h k a (mem_entries_iff.mp hmem)]

end Keyed

end NodeGraph.Table
