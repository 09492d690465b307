import NodeGraph.Proofs.Hook.Identifier

/-!
# Literals that pass

The hook for literals reads a value by the form that its type asks for, but with digits of any
script, and it does not look at a line break at the end. So what it lets through is emitted in this
form, maybe with a line break behind it, and it is a literal of the generated language exactly if
there is no such line break and all of it is ASCII.
-/

namespace NodeGraph.Hook

variable {digit digit' : Char → Prop} {kind : Literal} {c : Char} {cs ds rest : List Char}
  {type : String} {n : Node}

/-! ## Forms of literals -/

/-- At least one digit, and nothing but digits. -/
def Digits (digit : Char → Prop) (cs : List Char) : Prop := cs ≠ [] ∧ ∀ c ∈ cs, digit c

/-- The forms of literals whose digits are of a given class. -/
inductive Literal.Spells (digit : Char → Prop) : Literal → List Char → Prop where
  | natural {cs : List Char} (h : Digits digit cs) : Spells digit .integer cs
  | negative {cs : List Char} (h : Digits digit cs) : Spells digit .integer ('-' :: cs)
  | whole {cs : List Char} (h : Spells digit .integer cs) : Spells digit .decimal cs
  | fraction {cs ds : List Char} (h : Spells digit .integer cs) (h' : Digits digit ds) :
      Spells digit .decimal (cs ++ '.' :: ds)
  | yes : Spells digit .truth "true".toList
  | no : Spells digit .truth "false".toList

/-- The types that have literals of their own, and the kinds of these. -/
def literalKinds : List (String × Literal) :=
  [("i32", .integer), ("i64", .integer), ("f32", .decimal), ("f64", .decimal), ("bool", .truth)]

/-- A literal in the generated source: its digits are the ASCII ones. -/
def IsLiteral (kind : Literal) (s : String) : Prop := kind.Spells (·.isDigit = true) s.toList

namespace Literal.Spells

/-- Besides digits there are only signs, points and the letters of the truth values. -/
theorem forall_mem {p : Char → Prop} (h : kind.Spells digit cs) (hdigit : ∀ c, digit c → p c)
    (hother : List.Forall p "-.truefalse".toList) : ∀ c ∈ cs, p c := by
  have hother := List.forall_iff_forall_mem.mp hother
  induction h with
  | natural h => exact fun c hc => hdigit c (h.2 c hc)
  | negative h =>
      exact List.forall_mem_cons.mpr ⟨hother _ (by decide), fun c hc => hdigit c (h.2 c hc)⟩
  | whole _ ih => exact ih
  | fraction _ h' ih =>
      exact List.forall_mem_append.mpr ⟨ih, List.forall_mem_cons.mpr
        ⟨hother _ (by decide), fun c hc => hdigit c (h'.2 c hc)⟩⟩
  | yes => exact fun c hc => hother c (List.mem_append_left _ (List.mem_append_right "-.".toList hc))
  | no => exact fun c hc => hother c (List.mem_append_right "-.true".toList hc)

theorem notMem_break (h : kind.Spells digit cs) (hdigit : ¬ digit '\n') : '\n' ∉ cs := by
  intro hmem
  refine h.forall_mem (p := (· ≠ '\n')) ?_ (by decide) '\n' hmem rfl
  rintro c hc rfl
  exact hdigit hc

theorem mono (h : kind.Spells digit cs) (hdigit : ∀ c ∈ cs, digit c → digit' c) :
    kind.Spells digit' cs := by
  induction h with
  | natural h => exact .natural ⟨h.1, fun c hc => hdigit c hc (h.2 c hc)⟩
  | negative h =>
      exact .negative ⟨h.1, fun c hc => hdigit c (List.mem_cons_of_mem _ hc) (h.2 c hc)⟩
  | whole _ ih => exact .whole (ih hdigit)
  | fraction _ h' ih =>
      have hsides := List.forall_mem_append.mp hdigit
      have hpoint := List.forall_mem_cons.mp hsides.2
      exact .fraction (ih hsides.1) ⟨h'.1, fun c hc => hpoint.2 c hc (h'.2 c hc)⟩
  | yes => exact .yes
  | no => exact .no

end Literal.Spells

/-! ## The check of a form -/

theorem literal?_eq_some_iff : literal? type = some kind ↔ (type, kind) ∈ literalKinds := by
  unfold literal?
  split <;> simp_all [literalKinds, eq_comm]

theorem isDigits_iff : isDigits cs = true ↔ Digits (isDecimalDigit · = true) cs := by
  simp [isDigits, Digits]

theorem Digits.notMem (h : Digits (isDecimalDigit · = true) cs) (hc : isDecimalDigit c = false) :
    c ∉ cs := by
  intro hmem
  rw [h.2 c hmem] at hc
  cases hc

/-- Only a minus sign is dropped. -/
theorem eq_dropMinus (cs : List Char) : cs = dropMinus cs ∨ cs = '-' :: dropMinus cs := by
  unfold dropMinus
  split
  · exact .inr rfl
  · exact .inl rfl

theorem dropMinus_append (h : Digits (isDecimalDigit · = true) ds) (rest : List Char) :
    dropMinus (ds ++ rest) = ds ++ rest := by
  obtain ⟨c, cs, rfl⟩ := List.exists_cons_of_ne_nil h.1
  have hc : c ≠ '-' := by
    rintro rfl
    exact h.notMem (by decide +kernel) List.mem_cons_self
  unfold dropMinus
  split
  · rename_i heq
    exact absurd (List.cons.inj heq).1 hc
  · rfl

/-- Behind its sign, a whole number is a run of digits. -/
theorem dropMinus_of_integer (h : Literal.integer.Spells (isDecimalDigit · = true) cs) :
    Digits (isDecimalDigit · = true) (dropMinus cs) ∧
      ∀ rest, dropMinus (cs ++ rest) = dropMinus cs ++ rest := by
  cases h with
  | natural h =>
      have hself : dropMinus cs = cs := by
        have := dropMinus_append h []
        rwa [List.append_nil] at this
      rw [hself]
      exact ⟨h, dropMinus_append h⟩
  | negative h => exact ⟨h, fun _ => rfl⟩

theorem integer_of_dropMinus (h : Digits (isDecimalDigit · = true) ds)
    (hcs : cs = ds ∨ cs = '-' :: ds) : Literal.integer.Spells (isDecimalDigit · = true) cs := by
  rcases hcs with rfl | rfl
  · exact .natural h
  · exact .negative h

theorem holds_integer_iff : Literal.integer.holds cs = true ↔
    Literal.integer.Spells (isDecimalDigit · = true) cs := by
  rw [Literal.holds, isDigits_iff]
  exact ⟨fun h => integer_of_dropMinus h (eq_dropMinus cs), fun h => (dropMinus_of_integer h).1⟩

/-- Digits end at the point, or with the text. -/
theorem span_digits (h : Digits (isDecimalDigit · = true) ds) (hrest : ∀ c ∈ rest.head?, c = '.') :
    (ds ++ rest).takeWhile (· ≠ '.') = ds ∧ (ds ++ rest).dropWhile (· ≠ '.') = rest := by
  have hdigits : ∀ c ∈ ds, decide (c ≠ '.') = true := by
    intro c hc
    refine decide_eq_true ?_
    rintro rfl
    exact h.notMem (by decide +kernel) hc
  rw [List.takeWhile_append_of_pos hdigits, List.dropWhile_append_of_pos hdigits]
  cases rest with
  | nil => exact ⟨List.append_nil ds, rfl⟩
  | cons c rest =>
      obtain rfl := hrest c rfl
      exact ⟨List.append_nil ds, rfl⟩

theorem holds_decimal_iff : Literal.decimal.holds cs = true ↔
    Literal.decimal.Spells (isDecimalDigit · = true) cs := by
  constructor
  · intro h
    have hspan := List.takeWhile_append_dropWhile (p := (· ≠ '.')) (l := dropMinus cs)
    simp only [Literal.holds] at h
    split at h
    · rename_i hnone
      rw [hnone, List.append_nil] at hspan
      rw [hspan, isDigits_iff] at h
      exact .whole (integer_of_dropMinus h (eq_dropMinus cs))
    · rename_i c fraction hpoint
      rw [Bool.and_eq_true, isDigits_iff, isDigits_iff] at h
      have hfirst := List.head?_dropWhile_not (· ≠ '.') (dropMinus cs)
      rw [hpoint] at hfirst
      obtain rfl : c = '.' := by simpa using hfirst
      rw [hpoint] at hspan
      rcases eq_dropMinus cs with hcs | hcs
      · rw [hcs, ← hspan]
        exact .fraction (.natural h.1) h.2
      · rw [hcs, ← hspan, ← List.cons_append]
        exact .fraction (.negative h.1) h.2
  · intro h
    cases h with
    | whole h =>
        obtain ⟨hdigits, _⟩ := dropMinus_of_integer h
        obtain ⟨htake, hdrop⟩ := @span_digits _ [] hdigits (by simp)
        rw [List.append_nil] at htake hdrop
        simp only [Literal.holds, htake, hdrop, isDigits_iff.mpr hdigits]
    | fraction h h' =>
        rename_i ds es
        obtain ⟨hdigits, happend⟩ := dropMinus_of_integer h
        obtain ⟨htake, hdrop⟩ := @span_digits _ ('.' :: es) hdigits (by simp)
        simp only [Literal.holds, happend, htake, hdrop, isDigits_iff.mpr hdigits,
          isDigits_iff.mpr h', Bool.and_self]

theorem holds_truth_iff : Literal.truth.holds cs = true ↔
    Literal.truth.Spells (isDecimalDigit · = true) cs := by
  rw [Literal.holds, Bool.or_eq_true, decide_eq_true_iff, decide_eq_true_iff]
  constructor
  · rintro (rfl | rfl)
    · exact .yes
    · exact .no
  · rintro (_ | _)
    · exact .inl rfl
    · exact .inr rfl

/-- The check takes digits of every script. -/
theorem holds_iff : kind.holds cs = true ↔ kind.Spells (isDecimalDigit · = true) cs := by
  cases kind with
  | integer => exact holds_integer_iff
  | decimal => exact holds_decimal_iff
  | truth => exact holds_truth_iff

/-- Of the digits of all scripts, the ASCII ones are those that are ASCII characters. -/
theorem isDigit_of_isDecimalDigit (h : isDecimalDigit c = true) (hascii : c.toNat < 128) :
    c.isDigit = true := by
  have hzeros : ∀ first ∈ digitZeros, first = 48 ∨ 128 ≤ first := by decide
  rw [isDecimalDigit, digitValue?, Option.isSome_map, List.find?_isSome] at h
  obtain ⟨first, hfirst, hrange⟩ := h
  have hrange : first ≤ c.toNat ∧ c.toNat < first + 10 := of_decide_eq_true hrange
  obtain rfl : first = 48 := (hzeros first hfirst).resolve_right (by omega)
  exact Char.isDigit_iff_toNat.mpr ⟨hrange.1, Nat.le_of_lt_succ hrange.2⟩

/-- The forms of the generated source are those with ASCII digits. -/
theorem isLiteral_iff {s : String} (h : kind.Spells (isDecimalDigit · = true) s.toList) :
    IsLiteral kind s ↔ ∀ c ∈ s.toList, c.toNat < 128 := by
  constructor
  · intro hliteral
    refine hliteral.forall_mem ?_ (by decide)
    intro c hc
    exact (Char.isDigit_iff_toNat.mp hc).2.trans_lt (by decide)
  · exact fun hascii => h.mono fun c hc hdigit => isDigit_of_isDecimalDigit hdigit (hascii c hc)

/-! ## What is emitted -/

theorem literalText_eq_render {v : Value} (h : v ≠ .null) : literalText v = v.render := by
  cases v with
  | null => exact absurd rfl h
  | _ => rfl

theorem fieldText_of_text {name s : String} (h : n.field name = .text s) : fieldText n name = s := by
  rw [fieldText, h]
  by_cases hs : s = ""
  · subst hs
    rfl
  · simp [Value.isTruthy, Value.display, hs]

/-- A value that is given passes if it is emitted in the form of its type, a line break at the end
aside. -/
theorem literalMessages_eq_nil_iff (hkind : (type, kind) ∈ literalKinds)
    (htype : n.field "type" = .text type) (hnull : n.field "value" ≠ .null)
    (hempty : n.field "value" ≠ .text "") :
    literalMessages n = [] ↔
      kind.Spells (isDecimalDigit · = true) (dropFinalBreak (n.field "value").render.toList) := by
  rw [← holds_iff, ← literalText_eq_render hnull, literalMessages, fieldText_of_text htype,
    literal?_eq_some_iff.mpr hkind]
  generalize n.field "value" = v at hnull hempty
  cases v with
  | null => exact absurd rfl hnull
  | _ => simp

/-- A value that passes is emitted in the form of its type with digits of any script, maybe with a
line break behind it. It is emitted as a literal of the type if and only if it has no line break and
no character that is not ASCII. -/
theorem isLiteral_render_iff (hkind : (type, kind) ∈ literalKinds)
    (htype : n.field "type" = .text type) (hnull : n.field "value" ≠ .null)
    (hempty : n.field "value" ≠ .text "") (h : typedLiteral.check n = []) :
    (∃ cs, kind.Spells (isDecimalDigit · = true) cs ∧
      ((n.field "value").render.toList = cs ∨ (n.field "value").render.toList = cs ++ ['\n'])) ∧
    (IsLiteral kind (n.field "value").render ↔
      ∀ c ∈ (n.field "value").render.toList, c ≠ '\n' ∧ c.toNat < 128) := by
  have hform := (literalMessages_eq_nil_iff hkind htype hnull hempty).mp
    (List.append_eq_nil_iff.mp h).2
  refine ⟨⟨_, hform, eq_or_eq_append_break _⟩, ?_⟩
  rcases eq_or_eq_append_break (n.field "value").render.toList with heq | heq
  · rw [← heq] at hform
    have hbreak := hform.notMem_break (by decide +kernel)
    rw [isLiteral_iff hform]
    exact ⟨fun h c hc => ⟨ne_of_mem_of_not_mem hc hbreak, h c hc⟩, fun h c hc => (h c hc).2⟩
  · have hbreak : '\n' ∈ (n.field "value").render.toList := by
      rw [heq]
      exact List.mem_append_right _ List.mem_cons_self
    exact iff_of_false (fun hliteral => hliteral.notMem_break (by decide) hbreak)
      fun hplain => (hplain _ hbreak).1 rfl

/-- A node with nothing but a type and a value. -/
def typed (type : String) (v : Value) : Node :=
  ⟨"c", "Constant", .origin, [(.text "type", .text type), (.text "value", v)]⟩

theorem field_typed_type (type : String) (v : Value) :
    (typed type v).field "type" = .text type := by
  simp [typed, Node.field, Value.field?, Value.lookup, Value.eqv]

theorem field_typed_value (type : String) (v : Value) : (typed type v).field "value" = v := by
  simp [typed, Node.field, Value.field?, Value.lookup, Value.eqv]

theorem negative_fraction_emitted :
    ("f64", Literal.decimal) ∈ literalKinds ∧
      (typed "f64" (.text "-12.50")).field "type" = .text "f64" ∧
      (typed "f64" (.text "-12.50")).field "value" ≠ .null ∧
      (typed "f64" (.text "-12.50")).field "value" ≠ .text "" ∧
      typedLiteral.check (typed "f64" (.text "-12.50")) = [] ∧
      IsLiteral .decimal ((typed "f64" (.text "-12.50")).field "value").render := by
  have hkind : ("f64", Literal.decimal) ∈ literalKinds := by decide
  have htype := field_typed_type "f64" (.text "-12.50")
  have hvalue := field_typed_value "f64" (.text "-12.50")
  have hnull : (typed "f64" (.text "-12.50")).field "value" ≠ .null := by simp [hvalue]
  have hempty : (typed "f64" (.text "-12.50")).field "value" ≠ .text "" := by simp [hvalue]
  have hpasses : typedLiteral.check (typed "f64" (.text "-12.50")) = [] := by decide +kernel
  refine ⟨hkind, htype, hnull, hempty, hpasses,
    (isLiteral_render_iff hkind htype hnull hempty hpasses).2.mpr ?_⟩
  rw [hvalue]
  exact List.forall_iff_forall_mem.mp (by decide)

/-- A digit of another script passes, and so does a line break behind a literal. -/
theorem foreign_digit_and_break_pass :
    typedLiteral.check (typed "i32" (.text "٣")) = [] ∧
      ¬ IsLiteral .integer ((typed "i32" (.text "٣")).field "value").render ∧
      typedLiteral.check (typed "bool" (.text "true\n")) = [] ∧
      ¬ IsLiteral .truth ((typed "bool" (.text "true\n")).field "value").render := by
  rw [field_typed_value, field_typed_value]
  refine ⟨by decide +kernel, fun h => ?_, by decide +kernel, fun h => ?_⟩
  · have hascii := (isLiteral_iff (holds_iff.mp (by decide +kernel))).mp h
    exact absurd (hascii '٣' (by decide)) (by decide)
  · exact h.notMem_break (by decide) (by decide)

end NodeGraph.Hook
