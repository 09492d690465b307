import NodeGraph.Proofs.Yaml.RoundTrip

/-!
# Plain forms

A plain value is its own plain form. Plain forms hold no integers that the value did not hold.
-/

namespace NodeGraph.Value

/-! ## Plain values -/

mutual

theorem plain?_eq_self : (v : Value) → v.isPlain = true → v.Exact → v.plain? = some v
  | .null, _, _ | .bool _, _, _ | .int _, _, _ | .text _, _, _ => rfl
  | .float x, h, _ => by
      have hfinite : x.isFinite = true := h
      rw [plain?, if_pos hfinite]
  | .list items, h, hexact => by
      rw [plain?, plainItems?_eq_self items h hexact]
      rfl
  | .map pairs, h, hexact => by
      rw [plain?, plainEntries?_eq_self pairs h hexact.2, Option.map_some,
        mapOf_of_plain h hexact.1]

theorem plainItems?_eq_self : (items : List Value) → arePlain items = true → AllExact items →
    plainItems? items = some items
  | [], _, _ => rfl
  | v :: items, h, hexact => by
      simp only [arePlain, Bool.and_eq_true] at h
      rw [plainItems?, plain?_eq_self v h.1 hexact.1, plainItems?_eq_self items h.2 hexact.2]

theorem plainEntries?_eq_self : (pairs : List (Value × Value)) → entriesPlain pairs = true →
    EntriesExact pairs → plainEntries? pairs = some pairs
  | [], _, _ => rfl
  | (.text key, v) :: pairs, h, hexact => by
      simp only [entriesPlain, Bool.and_eq_true] at h
      rw [plainEntries?, plain?_eq_self v h.1 hexact.1, plainEntries?_eq_self pairs h.2 hexact.2]
      rfl

end

/-! ## Integers -/

theorem entriesWritable_insert {key v : Value} {pairs : List (Value × Value)}
    (hkey : key.isWritable = true) (hv : v.isWritable = true)
    (h : entriesWritable pairs = true) : entriesWritable (insert key v pairs) = true := by
  induction pairs with
  | nil => simp [insert, entriesWritable, hkey, hv]
  | cons pair pairs ih =>
      obtain ⟨k, w⟩ := pair
      simp only [entriesWritable, Bool.and_eq_true] at h
      rw [insert]
      split
      · simp [entriesWritable, h, hv]
      · simp [entriesWritable, h, ih h.2]

theorem isWritable_mapOf {pairs : List (Value × Value)} (h : entriesWritable pairs = true) :
    (mapOf pairs).isWritable = true := by
  have hfold : ∀ done, entriesWritable done = true →
      entriesWritable (pairs.foldl (fun entries p => insert p.1 p.2 entries) done) = true := by
    induction pairs with
    | nil => exact fun _ hdone => hdone
    | cons pair pairs ih =>
        obtain ⟨k, v⟩ := pair
        simp only [entriesWritable, Bool.and_eq_true] at h
        exact fun done hdone => ih h.2 _ (entriesWritable_insert h.1.1 h.1.2 hdone)
  exact hfold [] rfl

mutual

theorem isWritable_of_plain? : (v : Value) → ∀ {w : Value}, v.plain? = some w →
    v.isWritable = true → w.isWritable = true
  | .null, _, h, _ | .bool _, _, h, _ | .text _, _, h, _ | .date _, _, h, _
  | .dateTime _, _, h, _ => by
      obtain rfl := Option.some.inj h
      rfl
  | .int n, _, h, hints => by
      obtain rfl := Option.some.inj h
      exact hints
  | .float x, _, h, _ => by
      obtain rfl := Option.some.inj h
      split <;> rfl
  | .bytes bs, _, h, _ => by
      obtain ⟨s, -, rfl⟩ := Option.map_eq_some_iff.mp h
      rfl
  | .list items, _, h, hints | .tuple items, _, h, hints | .set items, _, h, hints => by
      obtain ⟨ws, hitems, rfl⟩ := Option.map_eq_some_iff.mp h
      exact areWritable_of_plainItems? items hitems hints
  | .map pairs, _, h, hints => by
      obtain ⟨ws, hpairs, rfl⟩ := Option.map_eq_some_iff.mp h
      exact isWritable_mapOf (entriesWritable_of_plainEntries? pairs hpairs hints)

theorem areWritable_of_plainItems? : (items : List Value) → ∀ {ws : List Value},
    plainItems? items = some ws → areWritable items = true → areWritable ws = true
  | [], _, h, _ => by
      obtain rfl := Option.some.inj h
      rfl
  | v :: items, ws, h, hints => by
      simp only [areWritable, Bool.and_eq_true] at hints
      rw [plainItems?] at h
      split at h
      · rename_i w ws hv hitems
        obtain rfl := Option.some.inj h
        simp [areWritable, isWritable_of_plain? v hv hints.1,
          areWritable_of_plainItems? items hitems hints.2]
      · cases h

theorem entriesWritable_of_plainEntries? : (pairs : List (Value × Value)) →
    ∀ {ws : List (Value × Value)}, plainEntries? pairs = some ws →
    entriesWritable pairs = true → entriesWritable ws = true
  | [], _, h, _ => by
      obtain rfl := Option.some.inj h
      rfl
  | (k, v) :: pairs, ws, h, hints => by
      simp only [entriesWritable, Bool.and_eq_true] at hints
      rw [plainEntries?] at h
      split at h
      · rename_i s w ws hkey hv hpairs
        obtain rfl := Option.some.inj h
        simp [entriesWritable, isWritable, isWritable_of_plain? v hv hints.1.2,
          entriesWritable_of_plainEntries? pairs hpairs hints.2]
      · cases h

end

end NodeGraph.Value
