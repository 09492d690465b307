import NodeGraph.Proofs.Schema
import NodeGraph.Registry

/-!
# Definitions that cannot be read to the end

Reading a value by a schema gives a definition or the issues found, and in only one case neither: if
the definition declares a pattern for a field that repeats something more often than can be counted.
No other reader stops, so that it does not matter what else is right or wrong with the definition.
-/

namespace NodeGraph

open Schema Checked

/-! ## Readers that do not stop -/

namespace Schema

variable {α : Type} {read : Value → Checked α}

/-- A reader that always comes to a value or to issues. -/
def Finishes (read : Value → Checked α) : Prop := ∀ v, read v ≠ .overflow

theorem finishes_record : Finishes record := by
  intro v
  cases v <;> rintro ⟨⟩

theorem record_eq_good_iff {v : Value} {pairs : List (Value × Value)} :
    record v = .good pairs ↔ v = .map pairs := by
  constructor
  · intro h
    cases v with
    | map entries => exact congrArg Value.map (good.inj h)
    | _ => cases h
  · rintro rfl
    rfl

theorem finishes_text : Finishes text := by
  intro v
  unfold text
  repeat' split
  all_goals rintro ⟨⟩

theorem boolWord_ne_overflow (s : String) : boolWord s ≠ .overflow := by
  unfold boolWord
  dsimp only
  repeat' split
  all_goals rintro ⟨⟩

theorem boolNumber_ne_overflow (n : Int) : boolNumber n ≠ .overflow := by
  unfold boolNumber
  repeat' split
  all_goals rintro ⟨⟩

theorem finishes_bool : Finishes bool := by
  intro v
  unfold bool
  repeat' split
  all_goals first
    | exact boolWord_ne_overflow _
    | exact boolNumber_ne_overflow _
    | rintro ⟨⟩

theorem finishes_float : Finishes float := by
  intro v
  unfold float floatText
  repeat' split
  all_goals rintro ⟨⟩

theorem finishes_int : Finishes int := by
  intro v
  unfold int intText
  repeat' split
  all_goals rintro ⟨⟩

theorem finishes_any : Finishes any := by
  rintro v ⟨⟩

/-- Null is read as nothing; if the reader itself does not stop there, it makes no difference. -/
theorem optional_eq_overflow_iff (hnull : read .null ≠ .overflow) {v : Value} :
    optional read v = .overflow ↔ read v = .overflow := by
  unfold optional
  split
  · constructor
    · rintro ⟨⟩
    · intro h
      exact absurd h hnull
  · exact map_eq_overflow_iff

theorem Finishes.optional (h : Finishes read) : Finishes (optional read) := by
  intro v hstop
  exact h v ((optional_eq_overflow_iff (h .null)).mp hstop)

theorem Finishes.list (h : Finishes read) : Finishes (list read) := by
  intro v hstop
  have hitems : ∀ items : List Value,
      Checked.all (items.mapIdx fun i v => (read v).under (.index i)) ≠ .overflow := by
    intro items hall
    obtain ⟨i, hi, hitem⟩ := List.mem_mapIdx.mp (all_eq_overflow_iff.mp hall)
    exact h _ (under_eq_overflow_iff.mp hitem)
  unfold Schema.list at hstop
  split at hstop
  · exact hitems _ hstop
  · exact hitems _ hstop
  · exact hitems _ hstop
  · cases hstop

theorem Finishes.required (h : Finishes read) (names : List String)
    (pairs : List (Value × Value)) : required names read pairs ≠ .overflow := by
  intro hstop
  obtain ⟨_, v, _, hv⟩ := required_eq_overflow_iff.mp hstop
  exact h v hv

theorem Finishes.defaulted (h : Finishes read) (names : List String) (missing : α)
    (pairs : List (Value × Value)) : defaulted names missing read pairs ≠ .overflow := by
  intro hstop
  obtain ⟨_, v, _, hv⟩ := defaulted_eq_overflow_iff.mp hstop
  exact h v hv

/-- A record stops the reading where its fields do. -/
theorem record_bind_eq_overflow_iff {f : List (Value × Value) → Checked α} {v : Value} :
    (record v).bind f = .overflow ↔ ∃ pairs, v = .map pairs ∧ f pairs = .overflow := by
  rw [bind_eq_overflow_iff, or_iff_right (finishes_record v)]
  simp only [record_eq_good_iff]

/-- A mapping with text keys stops the reading where one of its values does, whatever its keys. -/
theorem entries_eq_overflow_iff {v : Value} :
    entries read v = .overflow ↔
      ∃ pairs key item, v = .map pairs ∧ (key, item) ∈ pairs ∧ read item = .overflow := by
  constructor
  · intro hstop
    unfold entries at hstop
    split at hstop
    · rename_i pairs
      obtain ⟨⟨key, item⟩, hmem, hpair⟩ := List.mem_map.mp (all_eq_overflow_iff.mp hstop)
      refine ⟨pairs, key, item, rfl, hmem, ?_⟩
      rcases apply_eq_overflow_iff.mp hpair with hkey | hitem
      · rw [map_eq_overflow_iff, under_eq_overflow_iff, under_eq_overflow_iff] at hkey
        exact absurd hkey (finishes_text key)
      · exact under_eq_overflow_iff.mp hitem
    · cases hstop
  · rintro ⟨pairs, key, item, rfl, hmem, hitem⟩
    refine all_eq_overflow_iff.mpr (List.mem_map.mpr ⟨(key, item), hmem, ?_⟩)
    exact apply_eq_overflow_iff.mpr (.inr (under_eq_overflow_iff.mpr hitem))

end Schema

theorem FieldKind.finishes_decode : Finishes FieldKind.decode := by
  intro v
  unfold FieldKind.decode
  repeat' split
  all_goals rintro ⟨⟩

theorem Pin.finishes_decode : Finishes Pin.decode := by
  intro v
  simp [Pin.decode, record_bind_eq_overflow_iff, finishes_text.required,
    finishes_text.optional.defaulted, finishes_bool.defaulted]

theorem Pin.finishes_decodeList : Finishes Pin.decodeList := by
  intro v
  unfold Pin.decodeList
  split
  · rintro ⟨⟩
  · exact Pin.finishes_decode.list _

theorem PinSet.ofLists_ne_overflow (inputs outputs : List Pin) :
    PinSet.ofLists inputs outputs ≠ .overflow := by
  unfold PinSet.ofLists
  repeat' split
  all_goals rintro ⟨⟩

theorem PinSet.finishes_decode : Finishes PinSet.decode := by
  intro v
  unfold PinSet.decode
  split
  · rintro ⟨⟩
  · simp [bind_eq_overflow_iff, finishes_record v, Pin.finishes_decodeList.defaulted,
      PinSet.ofLists_ne_overflow]

/-! ## Patterns -/

/-- Constraints with a pattern of this text. -/
def Constraints.Declares (v : Value) (source : String) : Prop :=
  ∃ pairs pattern, v = .map pairs ∧ Value.field? "pattern" pairs = some pattern ∧
    Schema.text pattern = .good source

/-- A field whose values have to match the pattern. -/
def FieldSpec.Declares (v : Value) (source : String) : Prop :=
  ∃ pairs constraints, v = .map pairs ∧ Value.field? "validation" pairs = some constraints ∧
    Constraints.Declares constraints source

/-- A definition with such a field. -/
def NodeDefinition.Declares (pairs : List (Value × Value)) (source : String) : Prop :=
  ∃ entries key spec, Value.field? "fields" pairs = some (.map entries) ∧ (key, spec) ∈ entries ∧
    FieldSpec.Declares spec source

theorem TextPattern.ofText_eq_overflow_iff {source : String} :
    TextPattern.ofText source = .overflow ↔ Pattern.read source = .error .repeatTooLarge := by
  unfold TextPattern.ofText
  split <;> simp_all

theorem TextPattern.decode_eq_overflow_iff {v : Value} :
    TextPattern.decode v = .overflow ↔
      ∃ source, Schema.text v = .good source ∧ Pattern.read source = .error .repeatTooLarge := by
  rw [TextPattern.decode, bind_eq_overflow_iff, or_iff_right (finishes_text v)]
  simp only [TextPattern.ofText_eq_overflow_iff]

theorem Constraints.decode_eq_overflow_iff {v : Value} :
    Constraints.decode v = .overflow ↔
      ∃ source, Constraints.Declares v source ∧ Pattern.read source = .error .repeatTooLarge := by
  have hnull : TextPattern.decode .null ≠ .overflow := by rintro ⟨⟩
  simp only [Constraints.decode, Constraints.Declares, record_bind_eq_overflow_iff,
    apply_eq_overflow_iff, finishes_float.optional.defaulted, finishes_int.optional.defaulted,
    reduceCtorEq, false_or, defaulted_eq_overflow_iff, found?_singleton_eq_some_iff,
    optional_eq_overflow_iff hnull, TextPattern.decode_eq_overflow_iff]
  constructor
  · rintro ⟨pairs, rfl, _, v, ⟨_, hfield⟩, source, htext, hread⟩
    exact ⟨source, ⟨pairs, v, rfl, hfield, htext⟩, hread⟩
  · rintro ⟨source, ⟨pairs, v, rfl, hfield, htext⟩, hread⟩
    exact ⟨pairs, rfl, _, v, ⟨rfl, hfield⟩, source, htext, hread⟩

theorem FieldSpec.decode_eq_overflow_iff {v : Value} :
    FieldSpec.decode v = .overflow ↔
      ∃ source, FieldSpec.Declares v source ∧ Pattern.read source = .error .repeatTooLarge := by
  have hnull : Constraints.decode .null ≠ .overflow := by rintro ⟨⟩
  simp only [FieldSpec.decode, FieldSpec.Declares, record_bind_eq_overflow_iff,
    apply_eq_overflow_iff, FieldKind.finishes_decode.required, finishes_text.required,
    finishes_text.optional.defaulted, finishes_text.list.defaulted, finishes_any.defaulted,
    finishes_bool.defaulted, reduceCtorEq, false_or, defaulted_eq_overflow_iff,
    found?_singleton_eq_some_iff, optional_eq_overflow_iff hnull,
    Constraints.decode_eq_overflow_iff]
  constructor
  · rintro ⟨pairs, rfl, _, v, ⟨_, hfield⟩, source, hdeclares, hread⟩
    exact ⟨source, ⟨pairs, v, rfl, hfield, hdeclares⟩, hread⟩
  · rintro ⟨source, ⟨pairs, v, rfl, hfield, hdeclares⟩, hread⟩
    exact ⟨pairs, rfl, _, v, ⟨rfl, hfield⟩, source, hdeclares, hread⟩

theorem FieldSpec.decodeTable_eq_overflow_iff {v : Value} :
    FieldSpec.decodeTable v = .overflow ↔ ∃ pairs key spec, v = .map pairs ∧
      (key, spec) ∈ pairs ∧ FieldSpec.decode spec = .overflow := by
  unfold FieldSpec.decodeTable
  split
  · constructor
    · rintro ⟨⟩
    · rintro ⟨_, _, _, ⟨⟩, _⟩
  · rw [map_eq_overflow_iff, entries_eq_overflow_iff]

/-- A definition cannot be read to the end exactly if it declares a pattern that repeats something
too often. -/
theorem NodeDefinition.decode_eq_overflow_iff {hook : Option Hook} {pairs : List (Value × Value)} :
    NodeDefinition.decode hook (.map pairs) = .overflow ↔
      ∃ source, NodeDefinition.Declares pairs source ∧
        Pattern.read source = .error .repeatTooLarge := by
  -- a hook that was not taken out before is never read
  have hcheck : Finishes (fun _ => .issue .callableType : Value → Checked Hook) := by
    rintro v ⟨⟩
  have hrecord : ∀ f : List (Value × Value) → Checked NodeDefinition,
      (record (.map pairs)).bind f = f pairs := fun _ => rfl
  rw [NodeDefinition.decode, hrecord]
  simp only [apply_eq_overflow_iff, finishes_text.required, PinSet.finishes_decode.required,
    reduceCtorEq, false_or, or_false, required_eq_overflow_iff, found?_singleton_eq_some_iff,
    FieldSpec.decodeTable_eq_overflow_iff, FieldSpec.decode_eq_overflow_iff]
  constructor
  · rintro (⟨_, _, ⟨_, hfields⟩, entries, key, spec, rfl, hmem, source, hdeclares, hread⟩ | hhook)
    · exact ⟨source, ⟨entries, key, spec, hfields, hmem, hdeclares⟩, hread⟩
    · split at hhook
      · cases hhook
      · exact absurd hhook (hcheck.optional.defaulted _ _ pairs)
  · rintro ⟨source, ⟨entries, key, spec, hfields, hmem, hdeclares⟩, hread⟩
    exact .inl ⟨_, _, ⟨rfl, hfields⟩, entries, key, spec, rfl, hmem, source, hdeclares, hread⟩

end NodeGraph
