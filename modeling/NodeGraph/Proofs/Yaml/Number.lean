import Mathlib.Data.Bool.AllAny
import NodeGraph.Proofs.Number.Reading
import NodeGraph.Yaml.Document
import NodeGraph.Yaml.Printer

/-!
# Numbers in documents

Every integer that can be written is read back as itself, and every double as itself if it is in
canonical form. Their texts get the tags of integers and floats, and may stand without quotation
marks.
-/

namespace NodeGraph

namespace Yaml

theorem numberChar_plain : ∀ c ∈ numberChars,
    isGap c = false ∧ Printer.isPlainAscii c = true :=
  List.all_iff_forall_prop.mp (by decide)

/-! ## The text of a float -/

theorem mem_chars_point (t : PointText) : '.' ∈ t.chars := by simp [PointText.chars]

/-- A text that has a point is left as it is. -/
theorem floatText_of_point {negative : Bool} {m : ℕ} {e : ℤ} {h : Canonical m e} {cs : List Char}
    (htext : (Double.finite negative m e h).text.toList = cs) (hpoint : '.' ∈ cs) :
    Printer.floatText (.finite negative m e h) = cs := by
  have hcontains : cs.contains '.' = true := List.contains_iff_mem.mpr hpoint
  simp only [Printer.floatText, htext, hcontains, Bool.true_or, if_true]

/-- A single digit with an exponent gets a point and a zero. -/
theorem floatText_of_single {negative : Bool} {m : ℕ} {e : ℤ} {h : Canonical m e}
    {digit mark : Char} {size : List Char}
    (htext : (Double.finite negative m e h).text.toList =
      signed negative (digit :: 'e' :: mark :: size))
    (hdigit : digit.isDigit = true) (hmark : mark ≠ '.') (hsize : Numeral size) :
    Printer.floatText (.finite negative m e h) =
      signed negative (digit :: '.' :: '0' :: 'e' :: mark :: size) := by
  have hdigit' : digit ≠ '.' ∧ digit ≠ 'e' :=
    forall_isDigit (p := fun c => c ≠ '.' ∧ c ≠ 'e') (List.all_iff_forall_prop.mp (by decide))
      hdigit
  have hsize' : '.' ∉ size := by
    intro hmem
    have hpoint := hsize '.' hmem
    cases hpoint
  simp only [Printer.floatText, htext]
  cases negative <;>
    simp [signed, hsize', Ne.symm hmark, Ne.symm hdigit'.1, hdigit'.2]

/-- The text of a finite float that is not zero spells its shortest decimal. -/
theorem exists_floatText_of_ne_zero (negative : Bool) {m : ℕ} (hm : m ≠ 0) {e : ℤ}
    (h : Canonical m e) :
    ∃ t : PointText, Printer.floatText (.finite negative m e h) = signed negative t.chars ∧
      t.decimal.value = (Double.shortest m e).value := by
  set d := Double.shortest m e with hd
  have hnumeral : Numeral (Nat.toDigits 10 d.digits) := Numeral.toDigits d.digits
  have hvalue : (numeralValue (Nat.toDigits 10 d.digits) : ℚ) * 10 ^ d.exponent = d.value := by
    rw [numeralValue, Nat.ofDigitChars_ten_toDigits]
    rfl
  have hne : Nat.toDigits 10 d.digits ≠ [] := Nat.toDigits_ne_nil
  have htext : (Double.finite negative m e h).text.toList =
      signed negative (Double.layout (Nat.toDigits 10 d.digits)
        ((Nat.toDigits 10 d.digits).length + d.exponent)) := by
    rw [Double.text_finite negative hm h, String.toList_ofList]
  generalize Nat.toDigits 10 d.digits = ds at hnumeral hvalue hne htext
  rcases layout_eq hnumeral hne (ds.length + d.exponent) with ⟨t, hlayout, ht⟩ | ⟨c, rfl, hlayout⟩
  · rw [hlayout] at htext
    rw [add_sub_cancel_left] at ht
    refine ⟨t, floatText_of_point htext ?_, ht.trans hvalue⟩
    cases negative <;> simp [signed, mem_chars_point]
  · have hzero : Numeral ['0'] := Numeral.zeros 1
    rw [hlayout] at htext
    rw [List.length_singleton, Nat.cast_one, add_sub_cancel_left] at htext
    refine ⟨.scientific c ['0'] d.exponent hnumeral.head hzero (by simp), ?_, ?_⟩
    · rw [floatText_of_single htext hnumeral.head (by split <;> decide) (numeral_exponentDigits _)]
      simp [PointText.chars, PointText.tail, PointText.scientific]
    · rw [← hvalue, Decimal.value, PointText.decimal, PointText.power_scientific]
      have hten : numeralValue ([c] ++ ['0']) = 10 ^ 1 * numeralValue [c] :=
        numeralValue_append_zeros [c] 1
      simp only [PointText.scientific, hten, List.length_singleton]
      rw [zpow_sub₀ (by norm_num)]
      push_cast
      ring

/-- The text of a finite float has a point. -/
theorem exists_floatText (negative : Bool) {m : ℕ} {e : ℤ} (h : Canonical m e) :
    ∃ t : PointText, Printer.floatText (.finite negative m e h) = signed negative t.chars ∧
      (m = 0 → t.decimal.digits = 0) ∧
      (m ≠ 0 → t.decimal.value = (Double.shortest m e).value) := by
  by_cases hm : m = 0
  · have hzero : Numeral ['0'] := Numeral.zeros 1
    refine ⟨.positional ['0'] ['0'] hzero (by simp) hzero (by simp), ?_, fun _ => rfl,
      fun hne => absurd hm hne⟩
    refine floatText_of_point ?_ ?_
    · rw [Double.text, if_pos hm, String.toList_ofList, PointText.chars_positional]
      rfl
    · rw [PointText.chars_positional]
      cases negative <;> decide
  · obtain ⟨t, htext, hvalue⟩ := exists_floatText_of_ne_zero negative hm h
    exact ⟨t, htext, fun hzero => absurd hzero hm, fun _ => hvalue⟩

/-! ## Signs -/

section

variable {negative : Bool} {c : Char} {cs : List Char}

/-- The sign is split from a number again. -/
theorem numeral_signed (h : c :: cs ⊆ numberChars) (hc : c.isDigit = true) :
    numeral (signed negative (c :: cs)) = .ok (negative, c :: cs) := by
  have hbars : (signed negative (c :: cs)).filter (· ≠ '_') = signed negative (c :: cs) := by
    rw [List.filter_eq_self]
    intro x hx
    simpa using (numberChar_ne x (signed_subset h hx)).1
  rw [numeral, hbars, ← splitSign_signed hc]
  cases negative <;> rfl

theorem contains_colon (h : cs ⊆ numberChars) : cs.contains ':' = false := by
  rw [← Bool.not_eq_true, List.contains_iff_mem]
  intro hmem
  exact (numberChar_ne ':' (h hmem)).2.1 rfl

end

/-! ## Reading floats -/

/-- A sign and digits around a point are read as a float. -/
theorem readFloat_signed (negative : Bool) (t : PointText) :
    readFloat (signed negative t.chars) =
      .ok (.float (if negative then
        (Double.ofDecimal false t.decimal.digits t.decimal.exponent).neg
      else Double.ofDecimal false t.decimal.digits t.decimal.exponent)) := by
  have hlower : (signed negative t.chars).map lowerChar = signed negative t.chars :=
    map_eq_self fun c hc => (numberChar_lower c (signed_subset t.chars_subset hc)).1
  obtain ⟨c, rest, heq, hc⟩ := t.exists_chars_eq_cons
  have hnumeral : numeral (signed negative t.chars) = .ok (negative, t.chars) := by
    rw [heq]
    exact numeral_signed (heq ▸ t.chars_subset) hc
  have hword : t.chars ≠ ".inf".toList ∧ t.chars ≠ ".nan".toList := by
    rw [heq]
    exact forall_isDigit (p := fun c => c :: rest ≠ ".inf".toList ∧ c :: rest ≠ ".nan".toList)
      (by simp) hc
  simp only [readFloat, hlower, hnumeral]
  show (if t.chars = ".inf".toList then _ else _) = _
  rw [if_neg hword.1, if_neg hword.2, contains_colon t.chars_subset, t.readLenient?_chars]
  rfl

/-- A float is read back as itself. -/
theorem readFloat_floatText (x : Double) : readFloat (Printer.floatText x) = .ok (.float x) := by
  cases x with
  | nan => rfl
  | infinity negative => cases negative <;> rfl
  | finite negative m e h =>
      obtain ⟨t, htext, hzero, hvalue⟩ := exists_floatText negative h
      have hread : Double.ofDecimal false t.decimal.digits t.decimal.exponent =
          .finite false m e h := by
        have ⟨htop, hleast, _, hnormal⟩ := canonical_iff.mp h
        by_cases hm : m = 0
        · obtain rfl : e = -1074 := by omega
          subst hm
          rw [Double.ofDecimal, hzero rfl]
          rfl
        · have hpos : 0 < m := Nat.pos_of_ne_zero hm
          refine Double.ofDecimal_eq h hpos ?_
          have hrounds := Double.shortest_spec hpos htop hleast
          rwa [← hvalue hm] at hrounds
      rw [htext, readFloat_signed, hread]
      cases negative <;> rfl

/-! ## The tags of numbers -/

section

open Tag

theorem dropSign_signed (negative : Bool) {c : Char} {cs : List Char} (hc : c.isDigit = true) :
    dropSign (signed negative (c :: cs)) = c :: cs := by
  cases negative
  · exact forall_isDigit (p := fun c => dropSign (c :: cs) = c :: cs) (by simp [dropSign]) hc
  · rfl

theorem isDigitOrBar_of_isDigit {c : Char} (h : c.isDigit = true) : isDigitOrBar c = true := by
  simp [isDigitOrBar, Tag.isDigit, asciiDigit?_of_isDigit h]

theorem dropWhile_isDigitOrBar {cs rest : List Char} (h : Numeral cs) :
    (cs ++ rest).dropWhile isDigitOrBar = rest.dropWhile isDigitOrBar :=
  List.dropWhile_append_of_pos fun c hc => isDigitOrBar_of_isDigit (h c hc)

theorem isBoolText_eq_false {s : String} (h : ∃ c ∈ s.toList, c.isDigit = true) :
    isBoolText s = false := by
  rw [← Bool.not_eq_true]
  intro hbool
  obtain ⟨c, hc, hdigit⟩ := h
  have hwords : ["yes", "Yes", "YES", "no", "No", "NO", "true", "True", "TRUE", "false",
      "False", "FALSE", "on", "On", "ON", "off", "Off", "OFF"].all
      (fun word => word.toList.all fun c => !c.isDigit) = true := by decide
  have hword := List.all_eq_true.mp hwords s (List.contains_iff_mem.mp hbool)
  have hchar := List.all_eq_true.mp hword c hc
  rw [hdigit] at hchar
  cases hchar

theorem isExponentText_tail (t : PointText) :
    isExponentText (t.tail.dropWhile isDigitOrBar) = true := by
  unfold PointText.tail
  cases hexponent : t.exponent with
  | none => rfl
  | some p =>
      obtain ⟨negative, digits⟩ := p
      obtain ⟨hnumeral, hne⟩ := t.exponent_numeral _ hexponent
      have hmark : isDigitOrBar 'e' = false := rfl
      have hdigits : ∀ c ∈ digits, Tag.isDigit c = true := fun c hc => by
        simp [Tag.isDigit, asciiDigit?_of_isDigit (hnumeral c hc)]
      have hall : digits.all Tag.isDigit = true := List.all_eq_true.mpr hdigits
      cases negative <;> simp [List.dropWhile, hmark, isExponentText, hne, hall]

theorem ofPlain_signed (negative : Bool) (t : PointText) :
    Tag.ofPlain (String.ofList (signed negative t.chars)) = .float := by
  obtain ⟨c, rest, hchars, hc⟩ := t.exists_chars_eq_cons
  have hbool : isBoolText (String.ofList (signed negative t.chars)) = false := by
    refine isBoolText_eq_false ⟨c, ?_, hc⟩
    rw [String.toList_ofList, hchars]
    cases negative <;> simp [signed]
  have hdrop : dropSign (signed negative t.chars) = t.chars := by
    rw [hchars, dropSign_signed negative hc]
  have hfloat : isFloatText (signed negative t.chars) = true := by
    have hrest : t.chars.dropWhile isDigitOrBar = '.' :: (t.fraction ++ t.tail) := by
      rw [PointText.chars, dropWhile_isDigitOrBar t.whole_numeral]
      rfl
    have hexponent : isExponentText ((t.fraction ++ t.tail).dropWhile isDigitOrBar) = true := by
      rw [dropWhile_isDigitOrBar t.fraction_numeral]
      exact isExponentText_tail t
    have hdigit : Tag.isDigit c = true := by simp [Tag.isDigit, asciiDigit?_of_isDigit hc]
    simp only [isFloatText, hdrop, hrest]
    rw [hchars]
    simp [hdigit, hexponent]
  simp only [Tag.ofPlain, String.toList_ofList, hbool, hfloat, Bool.false_eq_true, if_false,
    if_true]

theorem ofPlain_floatText (x : Double) :
    Tag.ofPlain (String.ofList (Printer.floatText x)) = .float := by
  cases x with
  | nan => rfl
  | infinity negative => cases negative <;> rfl
  | finite negative m e h =>
      obtain ⟨t, htext, _⟩ := exists_floatText negative h
      rw [htext, ofPlain_signed]

end

/-! ## Integers -/

/-- A positive number does not start with a zero. -/
theorem exists_toDigits_eq_cons {n : ℕ} (h : 0 < n) :
    ∃ c rest, Nat.toDigits 10 n = c :: rest ∧ c.isDigit = true ∧ c ≠ '0' := by
  induction n using Nat.strong_induction_on with
  | _ n ih =>
      rw [Nat.toDigits_eq_if (by decide)]
      split
      · rename_i hsmall
        refine ⟨n.digitChar, [], rfl, by simp [Nat.isDigit_digitChar, hsmall], ?_⟩
        interval_cases n <;> decide
      · obtain ⟨c, rest, heq, hc, hne⟩ := ih (n / 10) (by omega) (by omega)
        exact ⟨c, rest ++ [(n % 10).digitChar], by rw [heq, List.cons_append], hc, hne⟩

theorem baseDigit?_of_isDigit {c : Char} (h : c.isDigit = true) :
    baseDigit? 10 c = some (c.toNat - 48) :=
  forall_isDigit (p := fun c => baseDigit? 10 c = some (c.toNat - 48))
    (List.all_iff_forall_prop.mp (by decide)) h

theorem mapM_baseDigit? {cs : List Char} (h : Numeral cs) :
    cs.mapM (baseDigit? 10) = some (cs.map fun c => c.toNat - 48) := by
  induction cs with
  | nil => rfl
  | cons c cs ih =>
      rw [List.mapM_cons, baseDigit?_of_isDigit h.head, ih h.tail]
      rfl

/-- Digits that do not start with a zero are read as the number that they spell, if there are not
too many. -/
theorem readBase?_ten {c : Char} {rest : List Char} (h : Numeral (c :: rest)) (hc : c ≠ '0')
    (hlength : (c :: rest).length ≤ decimalLimit) :
    readBase? 10 (c :: rest) = some (numeralValue (c :: rest) : ℤ) := by
  have hfold := fun x hx => numberChar_fold x (h.subset hx)
  have hvalue : ofDigits 10 ((c :: rest).map fun c => c.toNat - 48) = numeralValue (c :: rest) :=
    ofDigits_digits _ 0
  have hshort : ¬ decimalLimit < ((c :: rest).map fun c => c.toNat - 48).length := by
    rw [List.length_map]
    omega
  rw [readBase?, trimChars_eq_self fun x hx => (hfold x hx).2,
    map_eq_self fun x hx => (hfold x hx).1, splitSign_of_isDigit h.head]
  dsimp only
  split
  · rename_i heq
    exact absurd (List.cons.inj heq).1 hc
  · rw [mapM_baseDigit? h]
    show (if ((c :: rest).map fun c => c.toNat - 48).isEmpty || (decide (10 = 10) &&
      decide (decimalLimit < ((c :: rest).map fun c => c.toNat - 48).length)) then none else _) = _
    rw [decide_eq_false hshort, hvalue]
    rfl

/-- An integer is read back as itself if it has not too many digits. -/
theorem readInt_toString {n : ℤ} (h : (Nat.toDigits 10 n.natAbs).length ≤ decimalLimit) :
    readInt (toString n).toList = .ok (.int n) := by
  rcases Nat.eq_zero_or_pos n.natAbs with hzero | hpos
  · obtain rfl := Int.natAbs_eq_zero.mp hzero
    rfl
  · obtain ⟨c, rest, hdigits, hc, hne⟩ := exists_toDigits_eq_cons hpos
    have hnumeral : Numeral (c :: rest) := hdigits ▸ Numeral.toDigits n.natAbs
    have hvalue : numeralValue (c :: rest) = n.natAbs := by
      rw [← hdigits, numeralValue, Nat.ofDigitChars_ten_toDigits]
    rw [hdigits] at h
    rw [toList_toString_int, hdigits]
    unfold readInt
    rw [numeral_signed hnumeral.subset hc]
    dsimp only [bind, Except.bind]
    split
    · rename_i heq
      cases heq
    any_goals
      rename_i heq
      exact absurd (List.cons.inj heq).1 hne
    rw [contains_colon hnumeral.subset, readBase?_ten hnumeral hne h, hvalue]
    simp only [Bool.false_eq_true, if_false, Except.ok.injEq, Value.int.injEq, decide_eq_true_eq]
    split <;> omega

/-- Digits alone, that do not start with a zero, are an integer and no float. -/
theorem digits_tags (negative : Bool) {c : Char} {rest : List Char} (h : Numeral (c :: rest))
    (hne : c ≠ '0') :
    Tag.isFloatText (signed negative (c :: rest)) = false ∧
      Tag.isIntText (signed negative (c :: rest)) = true := by
  have hc := h.head
  have hdrop : Tag.dropSign (signed negative (c :: rest)) = c :: rest := dropSign_signed negative hc
  have hnone : (c :: rest).dropWhile Tag.isDigitOrBar = [] := by
    have hall := @dropWhile_isDigitOrBar (c :: rest) [] h
    rwa [List.append_nil] at hall
  have hdigit : Tag.isDigit c = true := by simp [Tag.isDigit, asciiDigit?_of_isDigit hc]
  constructor
  · have hinf : [".inf".toList, ".Inf".toList, ".INF".toList].contains (c :: rest) = false :=
      forall_isDigit (p := fun c =>
        [".inf".toList, ".Inf".toList, ".INF".toList].contains (c :: rest) = false) (by simp) hc
    have hpoint : c ≠ '.' := forall_isDigit (p := (· ≠ '.'))
      (List.all_iff_forall_prop.mp (by decide)) hc
    simp only [Tag.isFloatText, hdrop, hnone, hinf]
    cases negative <;> simp [signed, hpoint, Tag.isBase60Fraction, Tag.isBase60Tail]
  · have hrest : rest.all Tag.isDigitOrBar = true :=
      List.all_eq_true.mpr fun x hx => isDigitOrBar_of_isDigit (h.tail x hx)
    have hzero : ∀ {more : List Char}, c :: rest ≠ '0' :: more :=
      fun heq => hne (List.cons.inj heq).1
    rw [Tag.isIntText, hdrop]
    split
    · exact absurd ‹_› hzero
    · exact absurd ‹_› hzero
    · exact absurd ‹_› hzero
    · exact absurd ‹_› hzero
    · rename_i heq
      obtain ⟨rfl, rfl⟩ := List.cons.inj heq
      rw [hdigit, hrest]
      rfl
    · rename_i heq
      cases heq

theorem ofPlain_toString (n : ℤ) : Tag.ofPlain (toString n) = .int := by
  rcases Nat.eq_zero_or_pos n.natAbs with hzero | hpos
  · obtain rfl := Int.natAbs_eq_zero.mp hzero
    decide +kernel
  · obtain ⟨c, rest, hdigits, hc, hne⟩ := exists_toDigits_eq_cons hpos
    have hnumeral : Numeral (c :: rest) := hdigits ▸ Numeral.toDigits n.natAbs
    have hchars := toList_toString_int n
    rw [hdigits] at hchars
    have hbool : Tag.isBoolText (toString n) = false := by
      refine isBoolText_eq_false ⟨c, ?_, hc⟩
      rw [hchars]
      cases decide (n < 0) <;> simp [signed]
    obtain ⟨hfloat, hint⟩ := digits_tags (decide (n < 0)) hnumeral hne
    simp only [Tag.ofPlain, hchars, hbool, hfloat, hint, Bool.false_eq_true, if_false, if_true]

/-! ## Numbers without quotation marks -/

section

open Printer

variable {cs : List Char}

theorem hasPair_eq_false_left {p q : Char → Bool} (h : ∀ c ∈ cs, p c = false) :
    hasPair p q cs = false := by
  rw [hasPair, List.any_eq_false]
  rintro ⟨a, b⟩ hmem
  simp [h a (List.of_mem_zip hmem).1]

theorem hasPair_eq_false_right {p q : Char → Bool} (h : ∀ c ∈ cs, q c = false) :
    hasPair p q cs = false := by
  rw [hasPair, List.any_eq_false]
  rintro ⟨a, b⟩ hmem
  simp [h b (List.mem_of_mem_tail (List.of_mem_zip hmem).2)]

/-- A word of harmless characters needs no quotation marks if it does not start like an
indicator. -/
theorem allowsPlain_of_word (hplain : ∀ c ∈ cs, isPlainAscii c = true)
    (hword : ∀ c ∈ cs, c ≠ ':' ∧ c ≠ '#' ∧ c ≠ ' ') (hstart : startsLikeIndicator cs = false) :
    allowsPlain cs = true := by
  have hhead : cs.head? ≠ some ' ' := fun h => (hword ' ' (List.mem_of_head? h)).2.2 rfl
  have hlast : cs.getLast? ≠ some ' ' := fun h => (hword ' ' (List.mem_of_getLast? h)).2.2 rfl
  have hcolon : cs.getLast? ≠ some ':' := fun h => (hword ':' (List.mem_of_getLast? h)).1 rfl
  have hpair : hasPair (· = ':') isGap cs.tail = false :=
    hasPair_eq_false_left fun c hc => by simp [(hword c (List.mem_of_mem_tail hc)).1]
  have hsign : hasPair isGap (· = '#') cs = false :=
    hasPair_eq_false_right fun c hc => by simp [(hword c hc).2.1]
  have hall : cs.all isPlainAscii = true := List.all_eq_true.mpr hplain
  simp [allowsPlain, hall, hhead, hlast, hstart, holdsIndicator, hpair, hcolon, hsign]

theorem allowsPlain_signed (negative : Bool) {c : Char} (h : c :: cs ⊆ numberChars)
    (hc : c.isDigit = true) : allowsPlain (signed negative (c :: cs)) = true := by
  refine allowsPlain_of_word (fun x hx => (numberChar_plain x (signed_subset h hx)).2)
    (fun x hx => (numberChar_ne x (signed_subset h hx)).2) ?_
  cases negative
  · exact forall_isDigit (p := fun c => startsLikeIndicator (c :: cs) = false)
      (by simp [startsLikeIndicator, List.isPrefixOf]) hc
  · exact forall_isDigit (p := fun c => startsLikeIndicator ('-' :: c :: cs) = false)
      (by simp [startsLikeIndicator, List.isPrefixOf, isGap, isSpaceBreakOrEnd, isBreakOrEnd,
        isBreak, isEnd]) hc

theorem allowsPlain_floatText (x : Double) : allowsPlain (floatText x) = true := by
  cases x with
  | nan => decide
  | infinity negative => cases negative <;> decide
  | finite negative m e h =>
      obtain ⟨t, htext, _⟩ := exists_floatText negative h
      obtain ⟨c, rest, heq, hc⟩ := t.exists_chars_eq_cons
      rw [htext, heq]
      exact allowsPlain_signed negative (heq ▸ t.chars_subset) hc

theorem allowsPlain_toString (n : ℤ) : allowsPlain (toString n).toList = true := by
  have hne : Nat.toDigits 10 n.natAbs ≠ [] := Nat.toDigits_ne_nil
  obtain ⟨c, rest, hdigits⟩ := List.exists_cons_of_ne_nil hne
  have hnumeral : Numeral (c :: rest) := hdigits ▸ Numeral.toDigits n.natAbs
  rw [toList_toString_int, hdigits]
  exact allowsPlain_signed _ hnumeral.subset hnumeral.head

end

end Yaml

end NodeGraph
