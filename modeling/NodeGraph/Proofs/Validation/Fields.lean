import NodeGraph.Proofs.Outcome
import NodeGraph.Validation

/-!
# Acceptable field values

What a field asks of its value, apart from how the messages about it are put together: when a
required value is missing, when a value is given at all, and when a given value keeps to the kind
and the constraints of its field. The last main result is that a value gets no message exactly when
it is acceptable.

Bounds on numbers are read in an order that is left open. The intended one is `Double.Le`, in which
not-a-number is comparable to nothing. What the messages go by is `Double.NotAbove`, for which
not-a-number is within all bounds; `notAbove_iff` says that nothing else sets the two apart.
-/

namespace NodeGraph

/-! ## Orders of numbers -/

namespace Double

/-- At most, as an order of numbers. Not-a-number is at most nothing, and nothing is at most it. -/
def Le (x y : Double) : Prop := x ≠ .nan ∧ y ≠ .nan ∧ y.lt x = false

/-- Not greater. Not-a-number is not greater than anything. -/
def NotAbove (x y : Double) : Prop := y.lt x = false

theorem lt_nan (x : Double) : x.lt .nan = false := by
  cases x <;> rfl

theorem nan_lt (x : Double) : Double.nan.lt x = false := rfl

theorem notAbove_iff {x y : Double} : x.NotAbove y ↔ x.Le y ∨ x = .nan ∨ y = .nan := by
  constructor
  · intro h
    by_cases hx : x = .nan
    · exact .inr (.inl hx)
    · by_cases hy : y = .nan
      · exact .inr (.inr hy)
      · exact .inl ⟨hx, hy, h⟩
  · rintro (⟨_, _, h⟩ | rfl | rfl)
    · exact h
    · exact lt_nan y
    · exact nan_lt x

end Double

/-! ## What a field asks for -/

/-- The values that count as missing where one is required. -/
inductive Value.Missing : Value → Prop where
  | null : Missing .null
  | blank {s : String} (h : isBlankText s = true) : Missing (.text s)
  | false : Missing (.bool false)
  | zero : Missing (.int 0)
  | zeroFloat {x : Double} (h : x.isZero = true) : Missing (.float x)
  | emptyList : Missing (.list [])
  | emptyTuple : Missing (.tuple [])
  | emptySet : Missing (.set [])
  | emptyMap : Missing (.map [])

/-- A value that is given is neither null nor blank. -/
def Value.Given (v : Value) : Prop :=
  v ≠ .null ∧ ∀ s, v = .text s → isBlankText s = false

namespace Constraints

/-- The number is within the bounds that are given. -/
structure InRange (le : Double → Double → Prop) (c : Constraints) (x : Double) : Prop where
  least : ∀ low ∈ c.min, le low x
  most : ∀ high ∈ c.max, le x high

/-- The text has a length within the bounds and the shape that are given. -/
structure Fits (c : Constraints) (text : String) : Prop where
  least : ∀ size ∈ c.minLength, size ≤ (text.length : Int)
  most : ∀ size ∈ c.maxLength, (text.length : Int) ≤ size
  shape : ∀ p ∈ c.pattern, p.pattern.matchesAll text = true

end Constraints

/-- What a field accepts: one of its options if it has any, a number in range, or a text that fits.
Where the text counts, the value has to have one. -/
def FieldSpec.Accepts (le : Double → Double → Prop) (spec : FieldSpec) (v : Value) : Prop :=
  match spec.kind with
  | .choice => spec.options = [] ∨ (v.isWritable = true ∧ v.display ∈ spec.options)
  | .number => ∃ x, v.number? = .ok (some x) ∧ ∀ c ∈ spec.constraints, c.InRange le x
  | .boolean => True
  | .text | .multiline => ∀ c ∈ spec.constraints, v.isWritable = true ∧ c.Fits v.display

/-! ## Values without messages -/

@[simp] theorem complain_eq_nil_iff {fails : Bool} {message : String} :
    complain fails message = [] ↔ fails = false := by
  cases fails <;> simp [complain]

theorem toList_flatMap_eq_nil_iff {α : Type} {x : Option α} {f : α → List String} :
    x.toList.flatMap f = [] ↔ ∀ a ∈ x, f a = [] := by
  cases x <;> simp

theorem Value.isEmpty_iff {v : Value} : v.isEmpty = true ↔ v.Missing := by
  constructor
  · intro h
    cases v with
    | null => exact .null
    | bool b =>
        cases b with
        | false => exact .false
        | true => cases h
    | int n =>
        have hzero : n = 0 := by simpa [isEmpty] using h
        exact hzero ▸ .zero
    | float x => exact .zeroFloat h
    | text s => exact .blank h
    | list items => exact List.isEmpty_iff.mp h ▸ .emptyList
    | tuple items => exact List.isEmpty_iff.mp h ▸ .emptyTuple
    | set items => exact List.isEmpty_iff.mp h ▸ .emptySet
    | map entries => exact List.isEmpty_iff.mp h ▸ .emptyMap
    | bytes _ | date _ | dateTime _ => cases h
  · intro h
    cases h with
    | blank h => exact h
    | zeroFloat h => exact h
    | _ => rfl

theorem Value.isUnset_eq_false_iff {v : Value} : v.isUnset = false ↔ v.Given := by
  cases v <;> simp [isUnset, Given]

theorem choiceMessages_eq_nil_iff {name : String} {spec : FieldSpec} {v : Value} :
    choiceMessages name spec v = [] ↔ spec.options = [] ∨ v.display ∈ spec.options := by
  simp only [choiceMessages, complain_eq_nil_iff, Bool.and_eq_false_iff, Bool.not_eq_false',
    List.isEmpty_iff, List.contains_iff_mem]

theorem numberMessages_eq_nil_iff {name : String} {spec : FieldSpec} {v : Value} :
    numberMessages name spec v = .ok [] ↔
      ∃ x, v.number? = .ok (some x) ∧ ∀ c ∈ spec.constraints, c.InRange Double.NotAbove x := by
  unfold numberMessages
  rw [bind_eq_ok_iff]
  constructor
  · rintro ⟨found, hfound, hmessages⟩
    cases found with
    | none => simp at hmessages
    | some x =>
        refine ⟨x, hfound, ?_⟩
        simp only [pure_eq_ok_iff, List.append_eq_nil_iff, toList_flatMap_eq_nil_iff,
          complain_eq_nil_iff, Option.bind_eq_some_iff, Option.mem_def] at hmessages
        intro c hc
        exact ⟨fun low hlow => hmessages.1 low ⟨c, hc, hlow⟩,
          fun high hhigh => hmessages.2 high ⟨c, hc, hhigh⟩⟩
  · rintro ⟨x, hx, hrange⟩
    refine ⟨some x, hx, ?_⟩
    simp only [pure_eq_ok_iff, List.append_eq_nil_iff, toList_flatMap_eq_nil_iff,
      complain_eq_nil_iff, Option.bind_eq_some_iff, Option.mem_def]
    constructor
    · rintro low ⟨c, hc, hlow⟩
      exact (hrange c hc).least low hlow
    · rintro high ⟨c, hc, hhigh⟩
      exact (hrange c hc).most high hhigh

theorem textMessages_eq_nil_iff {name : String} {c : Constraints} {v : Value} :
    textMessages name c v = [] ↔ c.Fits v.display := by
  simp only [textMessages, List.append_eq_nil_iff, toList_flatMap_eq_nil_iff,
    complain_eq_nil_iff, decide_eq_false_iff_not, Bool.not_eq_false', Int.not_lt]
  constructor
  · rintro ⟨⟨hleast, hmost⟩, hshape⟩
    exact ⟨hleast, hmost, hshape⟩
  · rintro ⟨hleast, hmost, hshape⟩
    exact ⟨⟨hleast, hmost⟩, hshape⟩

theorem aboutText_eq_ok_iff {v : Value} {messages written : List String} :
    aboutText v messages = .ok written ↔ v.isWritable = true ∧ messages = written := by
  unfold aboutText
  cases v.isWritable <;> simp

theorem ruledMessages_eq_ok_iff {name : String} {c : Constraints} {v : Value}
    {messages : List String} :
    ruledMessages name c v = .ok messages ↔
      (∀ bound ∈ c.violated v.display.length, (Value.int bound).isWritable = true) ∧
        v.isWritable = true ∧ textMessages name c v = messages := by
  rw [ruledMessages, ← List.all_eq_true, ← aboutText_eq_ok_iff]
  split
  · rename_i hbounds
    exact (and_iff_right hbounds).symm
  · rename_i hbounds
    exact iff_of_false nofun fun h => hbounds h.1

theorem Constraints.Fits.violated_eq_nil {c : Constraints} {s : String} (h : c.Fits s) :
    c.violated s.length = [] := by
  simp only [violated, List.append_eq_nil_iff, List.filter_eq_nil_iff, Option.mem_toList,
    decide_eq_true_eq, Int.not_lt]
  exact ⟨h.least, h.most⟩

theorem ruledMessages_eq_nil_iff {name : String} {c : Constraints} {v : Value} :
    ruledMessages name c v = .ok [] ↔ v.isWritable = true ∧ c.Fits v.display := by
  rw [ruledMessages_eq_ok_iff, textMessages_eq_nil_iff]
  refine and_iff_right_of_imp ?_
  rintro ⟨-, hfits⟩ bound hbound
  rw [hfits.violated_eq_nil] at hbound
  cases hbound

theorem constraintMessages_eq_nil_iff {name : String} {spec : FieldSpec} {v : Value} :
    constraintMessages name spec v = .ok [] ↔ spec.Accepts Double.NotAbove v := by
  unfold constraintMessages FieldSpec.Accepts
  cases spec.kind with
  | choice =>
      by_cases hnone : spec.options = []
      · simp [hnone]
      · have hsome : spec.options.isEmpty = false := by simpa using hnone
        simp [hsome, hnone, aboutText_eq_ok_iff, choiceMessages_eq_nil_iff]
  | number => exact numberMessages_eq_nil_iff
  | boolean => simp
  | text | multiline =>
      cases spec.constraints with
      | none => simp
      | some rules => simp [ruledMessages_eq_nil_iff]

/-! ## Where the two orders agree -/

/-- No not-a-number is held against a bound, neither as the value nor as the bound. -/
def FieldSpec.Comparable (spec : FieldSpec) (v : Value) : Prop :=
  spec.kind = .number → ∀ c ∈ spec.constraints,
    (∀ x, v.number? = .ok (some x) → x ≠ .nan) ∧ (∀ low ∈ c.min, low ≠ .nan) ∧
      ∀ high ∈ c.max, high ≠ .nan

theorem Constraints.inRange_iff_of_ne_nan {c : Constraints} {x : Double} (hx : x ≠ .nan)
    (hmin : ∀ low ∈ c.min, low ≠ .nan) (hmax : ∀ high ∈ c.max, high ≠ .nan) :
    c.InRange Double.NotAbove x ↔ c.InRange Double.Le x := by
  constructor
  · rintro ⟨hleast, hmost⟩
    exact ⟨fun low hlow => ⟨hmin low hlow, hx, hleast low hlow⟩,
      fun high hhigh => ⟨hx, hmax high hhigh, hmost high hhigh⟩⟩
  · rintro ⟨hleast, hmost⟩
    exact ⟨fun low hlow => (hleast low hlow).2.2, fun high hhigh => (hmost high hhigh).2.2⟩

theorem FieldSpec.Comparable.accepts_iff {spec : FieldSpec} {v : Value} (h : spec.Comparable v) :
    spec.Accepts Double.NotAbove v ↔ spec.Accepts Double.Le v := by
  unfold Accepts
  split
  · rfl
  · rename_i hkind
    refine exists_congr fun x => and_congr_right fun hx => ?_
    refine forall_congr' fun c => imp_congr_right fun hc => ?_
    obtain ⟨hvalue, hmin, hmax⟩ := h hkind c hc
    exact Constraints.inRange_iff_of_ne_nan (hvalue x hx) hmin hmax
  · rfl
  · rfl
  · rfl

end NodeGraph
