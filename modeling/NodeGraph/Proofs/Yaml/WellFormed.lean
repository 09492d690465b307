import NodeGraph.Proofs.Value.Arrangement
import NodeGraph.Proofs.Yaml.RoundTrip

/-!
# Well-formed values

What is read from a document is well formed: no mapping in it has a key twice. This is so because a
value always equals itself, not-a-number included, so that a key that is there is found again.
-/

namespace NodeGraph

namespace Value

/-! ## Equality -/

theorem numeric_eqv_refl (n : Numeric) : n.eqv n = true := by
  cases n <;> simp [Numeric.eqv]

mutual

theorem eqv_refl : (v : Value) → v.eqv v = true
  | .null => by simp [eqv]
  | .text s => by simp [eqv]
  | .bytes bs => by simp [eqv]
  | .date d => by simp [eqv]
  | .dateTime t => by simp [eqv, DateTime.sameInstant]
  | .bool b => by simp [eqv, eqv.sameNumber, numeric?, numeric_eqv_refl]
  | .int n => by simp [eqv, eqv.sameNumber, numeric?, numeric_eqv_refl]
  | .float x => by simp [eqv, eqv.sameNumber, numeric?, numeric_eqv_refl]
  | .list items => by rw [eqv, eqvList_refl items]
  | .tuple items => by rw [eqv, eqvList_refl items]
  | .map entries => by rw [eqv, eqvEntries_of_subset entries (List.Subset.refl _)]; simp
  | .set items => by rw [eqv, eqvMembers_of_subset items (List.Subset.refl _)]; simp

theorem eqvList_refl : (vs : List Value) → eqvList vs vs = true
  | [] => by rw [eqvList]
  | v :: vs => by rw [eqvList, eqv_refl v, eqvList_refl vs]; rfl

theorem eqvEntries_of_subset : (entries : List (Value × Value)) →
    ∀ {all}, entries ⊆ all → eqvEntries entries all = true
  | [], _, _ => by rw [eqvEntries]
  | (k, v) :: entries, all, h => by
      have hfirst : (all.any fun (k', v') => eqv k k' && eqv v v') = true := by
        refine List.any_eq_true.mpr ⟨(k, v), h List.mem_cons_self, ?_⟩
        simp [eqv_refl k, eqv_refl v]
      rw [eqvEntries, hfirst,
        eqvEntries_of_subset entries fun _ hmem => h (List.mem_cons_of_mem _ hmem)]
      rfl

theorem eqvMembers_of_subset : (vs : List Value) → ∀ {all}, vs ⊆ all → eqvMembers vs all = true
  | [], _, _ => by rw [eqvMembers]
  | v :: vs, all, h => by
      have hfirst : (all.any fun w => eqv v w) = true :=
        List.any_eq_true.mpr ⟨v, h List.mem_cons_self, eqv_refl v⟩
      rw [eqvMembers, hfirst,
        eqvMembers_of_subset vs fun _ hmem => h (List.mem_cons_of_mem _ hmem)]
      rfl

end

/-! ## Well-formed values -/

mutual

/-- Whether no mapping in a value has a key twice, also in keys and members of sets. -/
def WellFormed : Value → Prop
  | .list items | .tuple items | .set items => AllWellFormed items
  | .map pairs => (pairs.map Prod.fst).Nodup ∧ EntriesWellFormed pairs
  | _ => True

def AllWellFormed : List Value → Prop
  | [] => True
  | v :: vs => WellFormed v ∧ AllWellFormed vs

def EntriesWellFormed : List (Value × Value) → Prop
  | [] => True
  | (k, v) :: more => WellFormed k ∧ WellFormed v ∧ EntriesWellFormed more

end

mutual

theorem WellFormed.exact : {v : Value} → v.WellFormed → v.Exact
  | .list _, h => AllWellFormed.allExact h
  | .map _, h => ⟨h.1, EntriesWellFormed.entriesExact h.2⟩
  | .null, _ | .bool _, _ | .int _, _ | .float _, _ | .text _, _ | .bytes _, _ | .date _, _
  | .dateTime _, _ | .tuple _, _ | .set _, _ => trivial

theorem AllWellFormed.allExact : {vs : List Value} → AllWellFormed vs → AllExact vs
  | [], _ => trivial
  | _ :: _, h => ⟨h.1.exact, AllWellFormed.allExact h.2⟩

theorem EntriesWellFormed.entriesExact :
    {pairs : List (Value × Value)} → EntriesWellFormed pairs → EntriesExact pairs
  | [], _ => trivial
  | (_, _) :: _, h => ⟨h.2.1.exact, EntriesWellFormed.entriesExact h.2.2⟩

end

theorem allWellFormed_iff {vs : List Value} : AllWellFormed vs ↔ ∀ v ∈ vs, v.WellFormed := by
  induction vs with
  | nil => simp [AllWellFormed]
  | cons v vs ih => simp [AllWellFormed, ih]

theorem entriesWellFormed_iff {pairs : List (Value × Value)} :
    EntriesWellFormed pairs ↔ ∀ pair ∈ pairs, pair.1.WellFormed ∧ pair.2.WellFormed := by
  induction pairs with
  | nil => simp [EntriesWellFormed]
  | cons pair pairs ih =>
      obtain ⟨k, v⟩ := pair
      simp [EntriesWellFormed, ih, and_assoc]

/-! ## Putting in -/

section

variable {key v : Value} {pairs more : List (Value × Value)}

/-- An entry that is put in replaces the value of another one, or is new at the end. -/
theorem map_fst_insert_or (key v : Value) (pairs : List (Value × Value)) :
    (insert key v pairs).map Prod.fst = pairs.map Prod.fst ∨
      key ∉ pairs.map Prod.fst ∧
        (insert key v pairs).map Prod.fst = pairs.map Prod.fst ++ [key] := by
  induction pairs with
  | nil => exact .inr ⟨List.not_mem_nil, rfl⟩
  | cons pair pairs ih =>
      obtain ⟨k, w⟩ := pair
      rw [insert]
      split
      · exact .inl rfl
      · rename_i hnot
        have hne : key ≠ k := by
          rintro rfl
          exact hnot (eqv_refl key)
        rcases ih with hsame | ⟨hnew, hlast⟩
        · exact .inl (by rw [List.map_cons, List.map_cons, hsame])
        · refine .inr ⟨?_, by rw [List.map_cons, List.map_cons, hlast, List.cons_append]⟩
          rw [List.map_cons, List.mem_cons]
          exact fun h => h.elim hne hnew

theorem nodup_insert (h : (pairs.map Prod.fst).Nodup) :
    ((insert key v pairs).map Prod.fst).Nodup := by
  rcases map_fst_insert_or key v pairs with hsame | ⟨hnew, hlast⟩
  · rwa [hsame]
  · rw [hlast]
    exact List.nodup_append.mpr ⟨h, List.nodup_singleton key, fun a ha b hb heq => by
      rw [List.mem_singleton.mp hb] at heq
      exact hnew (heq ▸ ha)⟩

theorem EntriesWellFormed.insert (h : EntriesWellFormed pairs) (hkey : key.WellFormed)
    (hv : v.WellFormed) : EntriesWellFormed (insert key v pairs) := by
  induction pairs with
  | nil => exact ⟨hkey, hv, trivial⟩
  | cons pair pairs ih =>
      obtain ⟨k, w⟩ := pair
      rw [Value.insert]
      split
      · exact ⟨h.1, hv, h.2.2⟩
      · exact ⟨h.1, h.2.1, ih h.2.2⟩

theorem EntriesWellFormed.append (h : EntriesWellFormed pairs) (hmore : EntriesWellFormed more) :
    EntriesWellFormed (pairs ++ more) := by
  rw [entriesWellFormed_iff] at h hmore ⊢
  exact List.forall_mem_append.mpr ⟨h, hmore⟩

theorem EntriesWellFormed.keys (h : EntriesWellFormed pairs) :
    AllWellFormed (pairs.map Prod.fst) := by
  rw [entriesWellFormed_iff] at h
  rw [allWellFormed_iff]
  exact List.forall_mem_map.mpr fun pair hmem => (h pair hmem).1

/-- A mapping is well formed if the pairs that are put into it are. -/
theorem wellFormed_mapOf (h : EntriesWellFormed pairs) : (mapOf pairs).WellFormed := by
  have hfold : ∀ done, (Value.map done).WellFormed →
      (Value.map (pairs.foldl (fun entries p => insert p.1 p.2 entries) done)).WellFormed := by
    induction pairs with
    | nil => exact fun _ hdone => hdone
    | cons pair pairs ih =>
        obtain ⟨k, v⟩ := pair
        exact fun done hdone => ih h.2.2 _ ⟨nodup_insert hdone.1, hdone.2.insert h.1 h.2.1⟩
  exact hfold [] ⟨List.nodup_nil, trivial⟩

theorem wellFormed_distinct {vs : List Value} (h : AllWellFormed vs) :
    AllWellFormed (distinct vs) := by
  have hfold : ∀ seen, AllWellFormed seen → AllWellFormed
      (vs.foldl (fun seen v => if seen.any v.eqv then seen else seen ++ [v]) seen) := by
    induction vs with
    | nil => exact fun _ hseen => hseen
    | cons v vs ih =>
        intro seen hseen
        refine ih h.2 _ ?_
        dsimp only
        split
        · exact hseen
        · rw [allWellFormed_iff] at hseen ⊢
          exact List.forall_mem_append.mpr ⟨hseen, by simpa using h.1⟩
  exact hfold [] trivial

theorem wellFormed_setOf {keys : List Value} (h : AllWellFormed keys) :
    (setOf keys).WellFormed := by
  have hmembers := allWellFormed_iff.mp (wellFormed_distinct h)
  exact allWellFormed_iff.mpr fun v hv => hmembers v ((arranged_perm _ _).mem_iff.mp hv)

end

end Value

namespace Yaml

open Value

/-! ## Scalars -/

theorem wellFormed_readFloat {cs : List Char} {v : Value} (h : readFloat cs = .ok v) :
    v.WellFormed := by
  obtain ⟨⟨negative, body⟩, _, h⟩ := bind_eq_ok_iff.mp h
  dsimp only at h
  split at h
  · obtain rfl := Except.ok.inj h
    trivial
  · split at h
    · obtain rfl := Except.ok.inj h
      trivial
    · split at h
      · split at h
        · obtain ⟨_, _, h⟩ := bind_eq_ok_iff.mp h
          obtain rfl := Except.ok.inj h
          trivial
        · cases h
      · split at h
        · obtain rfl := Except.ok.inj h
          trivial
        · cases h

theorem exists_int_of_readInt {cs : List Char} {v : Value} (h : readInt cs = .ok v) :
    ∃ n, v = .int n := by
  obtain ⟨⟨negative, body⟩, _, h⟩ := bind_eq_ok_iff.mp h
  dsimp only at h
  split at h
  · cases h
  · exact ⟨0, (Except.ok.inj h).symm⟩
  -- in each base the digits are read or are bad
  all_goals
    repeat' split at h
    all_goals first
      | exact ⟨_, (Except.ok.inj h).symm⟩
      | cases h

theorem wellFormed_readBinary {cs : List Char} {v : Value} (h : readBinary cs = .ok v) :
    v.WellFormed := by
  unfold readBinary at h
  split at h
  · split at h
    · obtain rfl := Except.ok.inj h
      trivial
    · cases h
  · cases h

theorem wellFormed_readTimestamp {cs : List Char} {v : Value} (h : readTimestamp cs = .ok v) :
    v.WellFormed := by
  unfold readTimestamp at h
  dsimp only at h
  split at h
  · cases h
  · split at h
    · cases h
    · obtain rfl := Except.ok.inj h
      trivial
    · split at h
      · obtain rfl := Except.ok.inj h
        trivial
      · cases h

theorem wellFormed_scalarValue {tag : Tag} {s : String} {v : Value}
    (h : scalarValue tag s = .ok v) : v.WellFormed := by
  unfold scalarValue at h
  split at h
  · obtain rfl := Except.ok.inj h
    trivial
  · split at h
    · obtain rfl := Except.ok.inj h
      trivial
    · cases h
  · obtain ⟨n, rfl⟩ := exists_int_of_readInt h
    trivial
  · exact wellFormed_readFloat h
  · exact wellFormed_readBinary h
  · exact wellFormed_readTimestamp h
  · obtain rfl := Except.ok.inj h
    trivial
  · cases h

/-! ## Building -/

theorem wellFormed_ofExcept {level : ℕ} {x : Except Fault Value}
    (h : ∀ v, x = .ok v → v.WellFormed) : (Built.ofExcept level x).value.WellFormed := by
  cases x with
  | ok v => exact h v rfl
  | error f => trivial

namespace Node

theorem wellFormed_keyed {level : ℕ} {node : Node} {built : Built Value}
    (h : built.value.WellFormed) : (keyed level node built).value.WellFormed := by
  unfold keyed
  split
  · split <;> trivial
  · split <;> exact h

mutual

/-- What is built is well formed, also in the place of a fault. -/
theorem wellFormed_build : (level : ℕ) → (node : Node) → (build level node).value.WellFormed
  | level, .scalar tag s => by
      unfold build
      split
      case h_6 => exact wellFormed_ofExcept fun v => wellFormed_scalarValue
      all_goals trivial
  | level, .sequence tag items => by
      unfold build
      split
      · exact wellFormed_buildItems (level + 1) items
      · exact wellFormed_buildSingles (level + 1) items
      · exact wellFormed_buildSingles (level + 1) items
      all_goals trivial
  | level, .mapping tag pairs => by
      have hentries : EntriesWellFormed (if mergesFit pairs then (buildPairs (level + 1) pairs).all
          else ⟨[], [(level + 1, .malformed)]⟩).value := by
        obtain ⟨hmerged, hown⟩ := wellFormed_buildPairs (level + 1) pairs
        split
        · exact hmerged.append hown
        · trivial
      unfold build
      dsimp only
      split
      · exact wellFormed_mapOf hentries
      · exact wellFormed_setOf hentries.keys
      · trivial
      · trivial
      · trivial
      · split <;> trivial
      · split
        · exact wellFormed_ofExcept fun v => wellFormed_scalarValue
        · trivial

theorem wellFormed_buildItems : (level : ℕ) → (items : List Node) →
    AllWellFormed (buildItems level items).value
  | _, [] => trivial
  | level, node :: more => by
      unfold buildItems
      exact ⟨wellFormed_build level node, wellFormed_buildItems level more⟩

theorem wellFormed_buildSingles : (level : ℕ) → (items : List Node) →
    AllWellFormed (buildSingles level items).value
  | level, items => by
      unfold buildSingles
      split
      · trivial
      · rename_i key value more
        exact ⟨⟨wellFormed_build level key, wellFormed_build level value, trivial⟩,
          wellFormed_buildSingles level more⟩
      · trivial

theorem wellFormed_buildPairs : (level : ℕ) → (pairs : List (Node × Node)) →
    EntriesWellFormed (buildPairs level pairs).merged.value ∧
      EntriesWellFormed (buildPairs level pairs).own.value
  | _, [] => ⟨trivial, trivial⟩
  | level, (key, value) :: more => by
      obtain ⟨hmerged, hown⟩ := wellFormed_buildPairs level more
      unfold buildPairs
      dsimp only
      split
      · exact ⟨(wellFormed_buildMerged level value).append hmerged, hown⟩
      · exact ⟨hmerged, wellFormed_keyed (wellFormed_build level key),
          wellFormed_build level value, hown⟩

theorem wellFormed_buildMerged : (level : ℕ) → (node : Node) →
    EntriesWellFormed (buildMerged level node).value
  | _, .scalar _ _ => trivial
  | level, .sequence _ items => wellFormed_buildMergedList level items
  | level, .mapping _ pairs => by
      obtain ⟨hmerged, hown⟩ := wellFormed_buildPairs level pairs
      exact hmerged.append hown

theorem wellFormed_buildMergedList : (level : ℕ) → (items : List Node) →
    EntriesWellFormed (buildMergedList level items).value
  | level, items => by
      unfold buildMergedList
      split
      · trivial
      · rename_i tag pairs more
        obtain ⟨hmerged, hown⟩ := wellFormed_buildPairs level pairs
        exact (wellFormed_buildMergedList level more).append (hmerged.append hown)
      · rename_i more _
        exact wellFormed_buildMergedList level more

end

end Node

theorem wellFormed_read {s : String} {v : Value} (h : read s = .ok v) : v.WellFormed := by
  unfold read at h
  split at h
  · cases h
  · obtain rfl := Except.ok.inj h
    trivial
  · unfold Node.value at h
    dsimp only at h
    split at h
    · cases h
    · obtain rfl := Except.ok.inj h
      exact Node.wellFormed_build 0 _

end Yaml

end NodeGraph
