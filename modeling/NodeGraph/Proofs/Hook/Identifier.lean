import NodeGraph.Proofs.Generation.Emitted

/-!
# Names that pass

The hook for identifiers looks at a name without a line break at its end, and at truth values with a
capital letter. So what it lets through is emitted as an identifier, maybe with a line break behind
it, and this is a name of the generated language unless there is that line break or the name is a
truth value.
-/

namespace NodeGraph

/-! ## Texts of values -/

theorem signed_ne_nil {cs : List Char} (h : cs ≠ []) (negative : Bool) : signed negative cs ≠ [] := by
  cases negative
  · exact h
  · exact List.cons_ne_nil _ _

theorem toString_int_ne_empty (n : ℤ) : toString n ≠ "" := by
  intro hempty
  have htext := toList_toString_int n
  rw [hempty] at htext
  exact signed_ne_nil Nat.toDigits_ne_nil _ htext.symm

theorem Double.text_ne_empty (x : Double) : x.text ≠ "" := by
  cases x with
  | nan => decide
  | infinity negative => cases negative <;> decide
  | finite negative m e h =>
      by_cases hm : m = 0
      · subst hm
        cases negative <;> simp [text]
      · obtain ⟨c, rest, hlayout, _⟩ := exists_layout_eq_cons
          (Numeral.toDigits (shortest m e).digits) Nat.toDigits_ne_nil
          ((Nat.toDigits 10 (shortest m e).digits).length + (shortest m e).exponent)
        rw [text_finite negative hm h, hlayout]
        cases negative <;> simp [signed]

/-- What counts as true has a text. -/
theorem Value.display_ne_empty {v : Value} (h : v.isTruthy = true) : v.display ≠ "" := by
  cases v with
  | null => cases h
  | bool b => cases b <;> decide
  | int n => exact toString_int_ne_empty n
  | float x => exact x.text_ne_empty
  | text s => simpa [isTruthy, display] using h
  | bytes bs => simp [display, literal, quoteBytes]
  | date d => simp [display, Date.text]
  | dateTime t => simp [display, DateTime.textWith]
  | list items => simp [display, literal]
  | tuple items =>
      simp only [display, literal]
      split <;> simp
  | set items =>
      simp only [display, literal]
      split <;> simp
  | map entries => simp [display, literal]

namespace Hook

variable {n : Node} {c : Char} {cs : List Char}

/-! ## Names -/

/-- An ASCII letter or low line, then ASCII letters, digits and low lines. -/
def IsIdentifier (s : String) : Prop :=
  ∃ c cs, s.toList = c :: cs ∧ (c.isAlpha = true ∨ c = '_') ∧
    ∀ d ∈ cs, d.isAlphanum = true ∨ d = '_'

/-- What can be a name in the generated source. -/
def IsName (s : String) : Prop := IsIdentifier s ∧ s ∉ keywords

theorem isLetter_iff : isLetter c = true ↔ c.isAlpha = true ∨ c = '_' := by
  have halpha : c.isAlpha = (c.isUpper || c.isLower) := rfl
  have hlower : c.isLower = (decide ('a' ≤ c) && decide (c ≤ 'z')) := rfl
  have hupper : c.isUpper = true ↔ 'A' ≤ c ∧ c ≤ 'Z' := by
    refine decide_eq_true_iff.trans ?_
    rfl
  simp only [isLetter, halpha, hlower, Bool.or_eq_true, Bool.and_eq_true, decide_eq_true_eq, hupper]
  tauto

theorem isLetterOrDigit_iff : isLetterOrDigit c = true ↔ c.isAlphanum = true ∨ c = '_' := by
  simp only [isLetterOrDigit, Char.isAlphanum, Bool.or_eq_true, Bool.and_eq_true,
    decide_eq_true_eq, isLetter_iff, isDigit_iff_range]
  tauto

theorem isIdentifier_iff : isIdentifier cs = true ↔ IsIdentifier (String.ofList cs) := by
  cases cs with
  | nil => simp [isIdentifier, IsIdentifier]
  | cons c cs => simp [isIdentifier, IsIdentifier, isLetter_iff, isLetterOrDigit_iff]

theorem IsIdentifier.notMem_break {s : String} (h : IsIdentifier s) : '\n' ∉ s.toList := by
  obtain ⟨c, cs, hs, hc, hcs⟩ := h
  rw [hs]
  rintro (_ | ⟨_, hmem⟩)
  · revert hc
    decide
  · have := hcs _ hmem
    revert this
    decide

/-- At most one line break is dropped. -/
theorem eq_or_eq_append_break (cs : List Char) :
    cs = dropFinalBreak cs ∨ cs = dropFinalBreak cs ++ ['\n'] := by
  unfold dropFinalBreak
  split
  · rename_i hlast
    exact .inr (List.dropLast_append_getLast? '\n' hlast).symm
  · exact .inl rfl

theorem fieldText_of_truthy {name : String} (h : (n.field name).isTruthy = true) :
    fieldText n name = (n.field name).display := by
  rw [fieldText, h]
  rfl

/-- A name that counts as true passes if it is an identifier without a line break at its end, and
with it no keyword. -/
theorem identifierMessages_eq_nil_iff (h : (n.field "name").isTruthy = true) :
    identifierMessages n = [] ↔
      IsIdentifier (String.ofList (dropFinalBreak (n.field "name").display.toList)) ∧
        (n.field "name").display ∉ keywords := by
  have hne := Value.display_ne_empty h
  rw [identifierMessages, fieldText_of_truthy h, ← isIdentifier_iff]
  rw [if_neg hne]
  cases hform : isIdentifier (dropFinalBreak (n.field "name").display.toList) with
  | false => simp
  | true =>
      by_cases hword : (n.field "name").display ∈ keywords
      · simp [hword]
      · simp [hword]

/-! ## What is emitted -/

/-- A name that passes is emitted as an identifier, maybe with a line break behind it. It is emitted
as a name unless there is that line break or it is a truth value, whose text is a keyword. -/
theorem isName_render_iff (htruthy : (n.field "name").isTruthy = true)
    (h : identifierMessages n = []) :
    (∃ s, IsIdentifier s ∧
      ((n.field "name").render = s ∨ (n.field "name").render = s ++ "\n")) ∧
    (IsName (n.field "name").render ↔
      n.field "name" ≠ .bool true ∧ '\n' ∉ (n.field "name").render.toList) := by
  obtain ⟨hform, hword⟩ := (identifierMessages_eq_nil_iff htruthy).mp h
  generalize n.field "name" = v at htruthy hform hword
  by_cases htrue : v = .bool true
  · subst htrue
    constructor
    · exact ⟨"true", isIdentifier_iff.mp rfl, .inl rfl⟩
    · refine iff_of_false (fun hname => ?_) fun hne => hne.1 rfl
      exact absurd hname.2 (by decide)
  · have hnull : v ≠ .null := by
      rintro rfl
      cases htruthy
    have htruth : ∀ b, v ≠ .bool b := by
      rintro (_ | _) rfl
      · cases htruthy
      · exact htrue rfl
    rw [Value.render_eq_display hnull htruth]
    rcases eq_or_eq_append_break v.display.toList with heq | heq
    · rw [← heq, String.ofList_toList] at hform
      exact ⟨⟨_, hform, .inl rfl⟩,
        iff_of_true ⟨hform, hword⟩ ⟨htrue, hform.notMem_break⟩⟩
    · have hbreak : '\n' ∈ v.display.toList := by
        rw [heq]
        simp
      refine ⟨⟨_, hform, .inr ?_⟩,
        iff_of_false (fun hname => hname.1.notMem_break hbreak) fun hfree => hfree.2 hbreak⟩
      rw [← String.toList_inj, String.toList_append, String.toList_ofList]
      exact heq

/-- A node with nothing but a name. -/
def named (v : Value) : Node := ⟨"v", "Variable", .origin, [(.text "name", v)]⟩

theorem field_named (v : Value) : (named v).field "name" = v := by
  simp [named, Node.field, Value.field?, Value.lookup, Value.eqv]

theorem snake_case_emitted :
    ((named (.text "total_2")).field "name").isTruthy = true ∧
      identifierMessages (named (.text "total_2")) = [] ∧
      IsName ((named (.text "total_2")).field "name").render := by
  have htruthy : ((named (.text "total_2")).field "name").isTruthy = true := by decide +kernel
  have hpasses : identifierMessages (named (.text "total_2")) = [] := by decide +kernel
  refine ⟨htruthy, hpasses, (isName_render_iff htruthy hpasses).2.mpr ?_⟩
  rw [field_named]
  exact ⟨nofun, by decide⟩

/-- The name passes, but it is emitted as no name. -/
def PassesAmiss (v : Value) : Prop :=
  ((named v).field "name").isTruthy = true ∧ identifierMessages (named v) = [] ∧
    ¬ IsName ((named v).field "name").render

/-- Names with a line break behind them pass, also keywords, and so does the truth value, which is
emitted as a keyword. -/
theorem broken_names_pass :
    PassesAmiss (.text "x\n") ∧ PassesAmiss (.text "fn\n") ∧ PassesAmiss (.bool true) := by
  refine ⟨⟨by decide +kernel, by decide +kernel, fun hname => ?_⟩,
    ⟨by decide +kernel, by decide +kernel, fun hname => ?_⟩,
    ⟨by decide +kernel, by decide +kernel, fun hname => ?_⟩⟩
  · exact hname.1.notMem_break (by decide +kernel)
  · exact hname.1.notMem_break (by decide +kernel)
  · exact hname.2 (by decide +kernel)

end Hook

end NodeGraph
