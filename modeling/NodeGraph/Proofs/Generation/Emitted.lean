import NodeGraph.Generation
import NodeGraph.Proofs.Number.Reading
import NodeGraph.Proofs.Validation.Fields

/-!
# What is emitted

Validation looks at the text that a value has by itself, generation emits the text that it has in
the source. For a value that is given these are one and the same text, unless it is a truth value,
which has a capital letter when it is looked at and none when it is emitted. So what passes as a
text is also emitted as such a text, except for truth values: their two spellings have the same
length, but one can be an option, or match a pattern, where the other does not.

A number is looked at as a double, and this double is read from the text that is emitted, except for
what is given in bytes. Whether it is in range is another question, since not-a-number passes all
bounds.
-/

namespace NodeGraph

/-! ## What is asked of texts -/

/-- What a field asks of a text: to be one of the options, or to have a length and a shape. Fields
for numbers and truth values ask nothing of a text. -/
def FieldSpec.Admits (spec : FieldSpec) (text : String) : Prop :=
  match spec.kind with
  | .choice => spec.options = [] ∨ text ∈ spec.options
  | .text | .multiline => ∀ c ∈ spec.constraints, c.Fits text
  | .number | .boolean => True

/-- The part of it that is about the length. -/
def FieldSpec.AdmitsLength (spec : FieldSpec) (text : String) : Prop :=
  spec.kind = .text ∨ spec.kind = .multiline → ∀ c ∈ spec.constraints,
    (∀ least ∈ c.minLength, least ≤ (text.length : Int)) ∧
      ∀ most ∈ c.maxLength, (text.length : Int) ≤ most

section

variable {name : String} {spec : FieldSpec} {v : Value} {text : String}
  {le : Double → Double → Prop}

theorem FieldSpec.Admits.length (h : spec.Admits text) : spec.AdmitsLength text := by
  intro hkind c hc
  have hfits : c.Fits text := by
    rcases hkind with hkind | hkind <;> simp only [Admits, hkind] at h <;> exact h c hc
  exact ⟨hfits.least, hfits.most⟩

theorem FieldSpec.AdmitsLength.congr {text' : String} (h : spec.AdmitsLength text)
    (hlength : text.length = text'.length) : spec.AdmitsLength text' := by
  unfold AdmitsLength at *
  rwa [← hlength]

/-- An accepted value looks as it should. -/
theorem FieldSpec.Accepts.admits (h : spec.Accepts le v) : spec.Admits v.display := by
  unfold Accepts at h
  unfold Admits
  cases hkind : spec.kind with
  | choice =>
      simp only [hkind] at h
      exact h.imp_right fun h => h.2
  | text | multiline =>
      simp only [hkind] at h
      exact fun c hc => (h c hc).2
  | number | boolean => trivial

/-- A text is looked at as it is. -/
theorem accepts_text_iff (hkind : spec.kind ≠ .number) :
    spec.Accepts le (.text text) ↔ spec.Admits text := by
  refine ⟨fun h => h.admits, fun h => ?_⟩
  unfold FieldSpec.Admits at h
  unfold FieldSpec.Accepts
  cases hcase : spec.kind with
  | choice =>
      simp only [hcase] at h
      exact h.imp_right fun h => ⟨rfl, h⟩
  | text | multiline =>
      simp only [hcase] at h
      exact fun c hc => ⟨rfl, h c hc⟩
  | number => exact absurd hcase hkind
  | boolean => trivial

/-! ## What is emitted -/

theorem Value.render_eq_display (hnull : v ≠ .null) (htruth : ∀ b, v ≠ .bool b) :
    v.render = v.display := by
  cases v with
  | null => exact absurd rfl hnull
  | bool b => exact absurd rfl (htruth b)
  | _ => rfl

theorem Value.length_render (hgiven : v.Given) : v.display.length = v.render.length := by
  by_cases htruth : ∃ b, v = .bool b
  · obtain ⟨b, rfl⟩ := htruth
    cases b <;> decide
  · rw [Value.render_eq_display hgiven.1 fun b hv => htruth ⟨b, hv⟩]

/-- What is said about a value is also said about the text that is emitted for it. -/
theorem constraintMessages_render {messages : List String} (hkind : spec.kind ≠ .number)
    (hgiven : v.Given) (htruth : ∀ b, v ≠ .bool b)
    (h : constraintMessages name spec v = .ok messages) :
    constraintMessages name spec (.text v.render) = .ok messages := by
  rw [Value.render_eq_display hgiven.1 htruth]
  unfold constraintMessages at *
  split at h
  · split at h
    · rename_i hnone
      rwa [if_pos hnone]
    · rename_i hsome
      rw [if_neg hsome]
      exact aboutText_eq_ok_iff.mpr ⟨rfl, (aboutText_eq_ok_iff.mp h).2⟩
  · contradiction
  · exact h
  -- texts of one line and of several are looked at alike
  all_goals
    split at h
    · exact h
    · obtain ⟨hbounds, -, hmessages⟩ := ruledMessages_eq_ok_iff.mp h
      exact ruledMessages_eq_ok_iff.mpr ⟨hbounds, rfl, hmessages⟩

/-- No field for numbers accepts a truth value. -/
theorem FieldSpec.Accepts.kind_ne_number {b : Bool} (h : spec.Accepts le (.bool b)) :
    spec.kind ≠ .number := by
  intro hkind
  simp only [Accepts, hkind] at h
  obtain ⟨x, hx, _⟩ := h
  cases hx

/-- What is emitted for an accepted value that is no truth value is a text that the field asks for.
For a truth value it has the right length, and it is such a text if it would be accepted itself. -/
theorem admits_render_of_accepted (hgiven : v.Given) (h : constraintMessages name spec v = .ok []) :
    ((∀ b, v ≠ .bool b) → spec.Admits v.render) ∧
    ∀ b, v = .bool b → spec.AdmitsLength v.render ∧
      (spec.Admits v.render ↔ constraintMessages name spec (.text v.render) = .ok []) := by
  have haccepts := constraintMessages_eq_nil_iff.mp h
  constructor
  · intro htruth
    by_cases hkind : spec.kind = .number
    · simp only [FieldSpec.Admits, hkind]
    · exact (accepts_text_iff hkind).mp
        (constraintMessages_eq_nil_iff.mp (constraintMessages_render hkind hgiven htruth h))
  · rintro b rfl
    refine ⟨haccepts.admits.length.congr (Value.length_render hgiven), ?_⟩
    rw [constraintMessages_eq_nil_iff, accepts_text_iff haccepts.kind_ne_number]

end

/-- A choice between two words with capital letters. -/
def answerField : FieldSpec where
  kind := .choice
  label := "Answer"
  description := none
  options := ["True", "False"]
  default := .null
  required := true
  constraints := none

theorem true_text_emitted :
    (Value.text "True").Given ∧
      constraintMessages "answer" answerField (.text "True") = .ok [] ∧
      answerField.Admits (Value.text "True").render := by
  have hgiven : (Value.text "True").Given := Value.isUnset_eq_false_iff.mp (by decide)
  have haccepted : constraintMessages "answer" answerField (.text "True") = .ok [] := rfl
  exact ⟨hgiven, haccepted, (admits_render_of_accepted hgiven haccepted).1 fun _ => nofun⟩

/-- The truth value is accepted as one of the words, and emitted as none of them. -/
theorem true_emitted_as_no_option :
    (Value.bool true).Given ∧ constraintMessages "answer" answerField (.bool true) = .ok [] ∧
      ¬ answerField.Admits (Value.bool true).render := by
  refine ⟨Value.isUnset_eq_false_iff.mp rfl, rfl, ?_⟩
  rintro (h | h)
  · cases h
  · exact absurd h (by decide)

/-! ## Numbers -/

/-- Where a bound is given, neither it nor the number held against it is not-a-number. -/
def Constraints.Comparable (c : Constraints) (x : Double) : Prop :=
  ∀ bound, bound ∈ c.min ∨ bound ∈ c.max → bound ≠ .nan ∧ x ≠ .nan

theorem Constraints.InRange.le_iff {c : Constraints} {x : Double} (h : c.InRange Double.NotAbove x) :
    c.InRange Double.Le x ↔ c.Comparable x := by
  constructor
  · rintro ⟨hleast, hmost⟩ bound (hmin | hmax)
    · exact ⟨(hleast bound hmin).1, (hleast bound hmin).2.1⟩
    · exact ⟨(hmost bound hmax).2.1, (hmost bound hmax).1⟩
  · intro hcomparable
    constructor
    · intro low hlow
      obtain ⟨hbound, hx⟩ := hcomparable low (.inl hlow)
      exact ⟨hbound, hx, h.least low hlow⟩
    · intro high hhigh
      obtain ⟨hbound, hx⟩ := hcomparable high (.inr hhigh)
      exact ⟨hx, hbound, h.most high hhigh⟩

section

variable {name : String} {spec : FieldSpec} {v : Value} {x : Double}

/-- Bytes are emitted between quotation marks, so never as a number. -/
theorem readLenient?_render_bytes (bs : List UInt8) :
    Double.readLenient? (Value.bytes bs).render = none := by
  show Double.readLenient? (quoteBytes bs) = none
  unfold quoteBytes
  dsimp only
  rw [String.append_assoc, String.append_assoc]
  exact readLenient?_b _

/-- A value that is a number is emitted as a text of that number, unless it is given in bytes. -/
theorem readLenient?_render (hbytes : ∀ bs, v ≠ .bytes bs) (h : v.number? = .ok (some x)) :
    Double.readLenient? v.render = some x := by
  cases v with
  | int n =>
      rw [Value.number?] at h
      split at h
      · rename_i y hy
        obtain rfl := Option.some.inj (Except.ok.inj h)
        exact Double.readLenient?_toString hy
      · cases h
  | float y =>
      obtain rfl := Option.some.inj (Except.ok.inj h)
      exact Double.readLenient?_text y
  | text s => exact Except.ok.inj h
  | bytes bs => exact absurd rfl (hbytes bs)
  | _ => cases h

/-- An accepted number is emitted as a text of the same number, and this is in range unless
not-a-number is held against a bound. Only what is given in bytes is emitted as no number at all. -/
theorem inRange_render_of_accepted (hkind : spec.kind = .number)
    (h : constraintMessages name spec v = .ok []) :
    ((∀ bs, v ≠ .bytes bs) → ∃ x, v.number? = .ok (some x) ∧
      Double.readLenient? v.render = some x ∧
      ∀ c ∈ spec.constraints, (c.InRange Double.Le x ↔ c.Comparable x)) ∧
    ∀ bs, v = .bytes bs → Double.readLenient? v.render = none := by
  have haccepts := constraintMessages_eq_nil_iff.mp h
  simp only [FieldSpec.Accepts, hkind] at haccepts
  obtain ⟨x, hx, hrange⟩ := haccepts
  constructor
  · intro hbytes
    exact ⟨x, hx, readLenient?_render hbytes hx, fun c hc => (hrange c hc).le_iff⟩
  · rintro bs rfl
    exact readLenient?_render_bytes bs

end

/-- A number that must not be negative. -/
def amountField : FieldSpec where
  kind := .number
  label := "Amount"
  description := none
  options := []
  default := .null
  required := true
  constraints := some ⟨some .zero, none, none, none, none⟩

/-- The double nearest to a tenth. -/
def tenth : Double := .finite false 0x1999999999999a (-56) (by decide)

theorem tenth_emitted_in_range :
    constraintMessages "amount" amountField (.float tenth) = .ok [] ∧
      Double.readLenient? (Value.float tenth).render = some tenth ∧
      ∀ c ∈ amountField.constraints, c.InRange Double.Le tenth := by
  have haccepted : constraintMessages "amount" amountField (.float tenth) = .ok [] := by
    decide +kernel
  obtain ⟨x, hx, hread, hrange⟩ :=
    (inRange_render_of_accepted rfl haccepted).1 fun _ => nofun
  obtain rfl : tenth = x := Option.some.inj (Except.ok.inj hx)
  refine ⟨haccepted, hread, fun c hc => (hrange c hc).mpr ?_⟩
  obtain rfl := Option.some.inj hc
  rintro bound (hmin | hmax)
  · obtain rfl : Double.zero = bound := Option.some.inj hmin
    exact ⟨nofun, nofun⟩
  · cases hmax

/-- Not-a-number is accepted and emitted, although it is not at least zero. Bytes with a digit are
accepted as a number and emitted as none. -/
theorem nan_and_bytes_emitted :
    (constraintMessages "amount" amountField (.float .nan) = .ok [] ∧
      ¬ ∃ x, Double.readLenient? (Value.float .nan).render = some x ∧
        ∀ c ∈ amountField.constraints, c.InRange Double.Le x) ∧
    constraintMessages "amount" amountField (.bytes [0x35]) = .ok [] ∧
      Double.readLenient? (Value.bytes [0x35]).render = none := by
  refine ⟨⟨by decide +kernel, ?_⟩, by decide +kernel, readLenient?_render_bytes _⟩
  rintro ⟨x, hread, hrange⟩
  have hnan : Double.readLenient? (Value.float .nan).render = some .nan := by decide
  obtain rfl := Option.some.inj (hnan.symm.trans hread)
  exact ((hrange _ rfl).least _ rfl).2.1 rfl

end NodeGraph
