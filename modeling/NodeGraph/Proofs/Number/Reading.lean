import Mathlib.Data.Bool.AllAny
import NodeGraph.Number.Reading
import NodeGraph.Proofs.Number.Layout
import NodeGraph.Proofs.Number.Overflow

/-!
# Numbers read back

The text of an integer and that of a double consist of characters that are read as they are, also by
the reader that lets white space, underscores and digits of other scripts pass. So an integer is
read as the double that it is rounded to, and a double as itself.
-/

namespace NodeGraph

/-! ## Texts without separators and blanks -/

section

variable {cs : List Char}

theorem trimChars_eq_self {p : Char → Bool} (h : ∀ c ∈ cs, p c = false) : trimChars p cs = cs := by
  have hdrop : ∀ {xs : List Char}, (∀ c ∈ xs, p c = false) → xs.dropWhile p = xs := by
    intro xs hxs
    cases xs with
    | nil => rfl
    | cons x xs => simp [hxs x List.mem_cons_self]
  rw [trimChars, hdrop h, hdrop (fun c hc => h c (List.mem_reverse.mp hc)), List.reverse_reverse]

theorem dropSeparators?_eq_self (h : ∀ c ∈ cs, c ≠ '_') {previous : Option Char}
    (hprevious : previous ≠ some '_') : dropSeparators? previous cs = some cs := by
  induction cs generalizing previous with
  | nil => simp [dropSeparators?, hprevious]
  | cons c cs ih =>
      obtain ⟨hc, hcs⟩ := List.forall_mem_cons.mp h
      have hrest : dropSeparators? (some c) cs = some cs := ih hcs (by simpa using hc)
      simp [dropSeparators?, hc, hprevious, hrest]

theorem map_eq_self {f : Char → Char} (h : ∀ c ∈ cs, f c = c) : cs.map f = cs :=
  (List.map_congr_left h).trans (List.map_id cs)

end

/-! ## The characters of numbers -/

/-- The characters that the text of a number may hold. -/
def numberChars : List Char := "0123456789.e+-".toList

theorem numberChar_ne : ∀ c ∈ numberChars, c ≠ '_' ∧ c ≠ ':' ∧ c ≠ '#' ∧ c ≠ ' ' :=
  List.all_iff_forall_prop.mp (by decide)

theorem numberChar_lower : ∀ c ∈ numberChars, lowerChar c = c ∧ asciiLower c = c :=
  List.all_iff_forall_prop.mp (by decide)

theorem numberChar_fold : ∀ c ∈ numberChars, foldDigit c = c ∧ isUnicodeSpace c = false :=
  List.all_iff_forall_prop.mp (by decide)

/-- A digit is no sign. -/
theorem splitSign_of_isDigit {c : Char} {cs : List Char} (hc : c.isDigit = true) :
    splitSign (c :: cs) = (false, c :: cs) :=
  forall_isDigit (p := fun c => splitSign (c :: cs) = (false, c :: cs)) (by simp [splitSign]) hc

theorem Numeral.subset {cs : List Char} (h : Numeral cs) : cs ⊆ numberChars := by
  intro c hc
  exact forall_isDigit (p := (· ∈ numberChars)) (List.all_iff_forall_prop.mp (by decide)) (h c hc)

namespace PointText

variable (t : PointText)

theorem tail_subset : t.tail ⊆ numberChars := by
  unfold tail
  split
  · simp
  · rename_i negative digits hexponent
    have hdigits : digits ⊆ numberChars := (t.exponent_numeral _ hexponent).1.subset
    refine List.cons_subset.mpr ⟨by decide, List.cons_subset.mpr ⟨?_, hdigits⟩⟩
    cases negative <;> decide

theorem chars_subset : t.chars ⊆ numberChars :=
  List.append_subset.mpr ⟨t.whole_numeral.subset, List.cons_subset.mpr
    ⟨by decide, List.append_subset.mpr ⟨t.fraction_numeral.subset, t.tail_subset⟩⟩⟩

/-- The text starts with a digit. -/
theorem exists_chars_eq_cons : ∃ c rest, t.chars = c :: rest ∧ c.isDigit = true := by
  obtain ⟨c, rest, hwhole⟩ := List.exists_cons_of_ne_nil t.whole_ne_nil
  refine ⟨c, rest ++ '.' :: (t.fraction ++ t.tail), by rw [chars, hwhole, List.cons_append], ?_⟩
  exact t.whole_numeral c (hwhole ▸ List.mem_cons_self)

end PointText

/-! ## Signs -/

/-- A sign, true for minus, in front of digits. -/
def signed (negative : Bool) (cs : List Char) : List Char := if negative then '-' :: cs else cs

section

variable {negative : Bool} {c : Char} {cs : List Char}

theorem signed_subset (h : cs ⊆ numberChars) : signed negative cs ⊆ numberChars := by
  cases negative
  · exact h
  · exact List.cons_subset.mpr ⟨by decide, h⟩

/-- The sign is split from a number again. -/
theorem splitSign_signed (hc : c.isDigit = true) :
    splitSign (signed negative (c :: cs)) = (negative, c :: cs) := by
  cases negative
  · exact splitSign_of_isDigit hc
  · rfl

/-- Nothing is dropped from a number, and none of its characters is changed. -/
theorem readLenient?_of_subset (h : cs ⊆ numberChars) :
    Double.readLenient? (String.ofList cs) = Double.readPlain? cs := by
  have hfold := fun c hc => numberChar_fold c (h hc)
  have hbar := fun c hc => (numberChar_ne c (h hc)).1
  rw [Double.readLenient?, String.toList_ofList, trimChars_eq_self fun c hc => (hfold c hc).2,
    map_eq_self fun c hc => (hfold c hc).1, dropSeparators?_eq_self hbar (by simp),
    Option.bind_some]

/-- What starts with a digit behind its sign is no word. -/
theorem readPlain?_signed (h : c :: cs ⊆ numberChars) (hc : c.isDigit = true) :
    Double.readPlain? (signed negative (c :: cs)) = readDecimal? negative (c :: cs) := by
  have hlower : (c :: cs).map asciiLower = c :: cs :=
    map_eq_self fun x hx => (numberChar_lower x (h hx)).2
  have hword : c :: cs ≠ "inf".toList ∧ c :: cs ≠ "infinity".toList ∧ c :: cs ≠ "nan".toList :=
    forall_isDigit (p := fun c => c :: cs ≠ "inf".toList ∧ c :: cs ≠ "infinity".toList ∧
      c :: cs ≠ "nan".toList) (by simp) hc
  simp only [Double.readPlain?, splitSign_signed hc, hlower, hword.1, hword.2.1, hword.2.2, or_self,
    if_false]

theorem readLenient?_signed (h : c :: cs ⊆ numberChars) (hc : c.isDigit = true) :
    Double.readLenient? (String.ofList (signed negative (c :: cs))) =
      readDecimal? negative (c :: cs) := by
  rw [readLenient?_of_subset (signed_subset h), readPlain?_signed h hc]

end

theorem PointText.readLenient?_chars (t : PointText) :
    Double.readLenient? (String.ofList t.chars) =
      some (Double.ofDecimal false t.decimal.digits t.decimal.exponent) := by
  obtain ⟨c, rest, heq, hc⟩ := t.exists_chars_eq_cons
  have hsubset : c :: rest ⊆ numberChars := heq ▸ t.chars_subset
  rw [← t.readDecimal?_chars, heq]
  exact @readLenient?_signed false c rest hsubset hc

/-! ## Integers -/

theorem toList_toString_int (n : ℤ) :
    (toString n).toList = signed (decide (n < 0)) (Nat.toDigits 10 n.natAbs) := by
  cases n with
  | ofNat k =>
      have hpos : ¬ (Int.ofNat k < 0) := by simp
      rw [decide_eq_false hpos]
      exact toList_toString k
  | negSucc k =>
      rw [decide_eq_true (Int.negSucc_lt_zero k), Int.natAbs_negSucc]
      show ("-" ++ toString (k + 1)).toList = _
      rw [String.toList_append, toList_toString]
      rfl


/-- Digits alone are read as the number that they spell. -/
theorem readDecimal?_numeral {cs : List Char} (h : Numeral cs) (hne : cs ≠ []) (negative : Bool) :
    readDecimal? negative cs = some (Double.ofDecimal negative (numeralValue cs) 0) := by
  obtain ⟨digits, hspan, hlength, hvalue⟩ := @spanDigits_append cs [] h (by simp)
  rw [List.append_nil] at hspan
  have hdigits : digits.isEmpty = false := by
    rw [List.isEmpty_eq_false_iff]
    rintro rfl
    exact hne (List.length_eq_zero_iff.mp hlength.symm)
  have hnumber : ofDigits 10 digits = numeralValue cs := hvalue 0
  simp [readDecimal?, hspan, splitFraction, hdigits, readExponent?, hnumber]

namespace Double

theorem overflowBound_lt : overflowBound < 10 ^ 400 := by decide +kernel

/-- Within the range of the doubles, a natural number is read like a ratio. -/
theorem ofDecimal_natural (negative : Bool) {n : ℕ} (h : n < overflowBound) :
    ofDecimal negative n 0 = ofRatio negative n 1 := by
  rcases Nat.eq_zero_or_pos n with rfl | hn
  · rfl
  · have hlength : (decimalLength n : ℤ) - 1 < 400 := by
      refine ten_zpow_lt ((decimalLength_bounds hn).1.trans_lt ?_)
      exact_mod_cast h.trans overflowBound_lt
    have hsmall : ¬ 400 < (decimalLength n : ℤ) + 0 := by omega
    have hlarge : ¬ (decimalLength n : ℤ) + 0 < -400 := by omega
    unfold ofDecimal
    dsimp only
    rw [if_neg hn.ne', if_neg hsmall, if_neg hlarge]
    simp

/-- An integer in range is read as the double that it is rounded to. -/
theorem readLenient?_toString {n : ℤ} {x : Double} (h : ofInt? n = some x) :
    readLenient? (toString n) = some x := by
  have hrange : n.natAbs < overflowBound := by
    by_contra hlarge
    rw [ofInt?_eq_none_iff.mpr (by omega)] at h
    cases h
  have hratio : ofRatio (decide (n < 0)) n.natAbs 1 = x := by
    unfold ofInt? at h
    split at h
    · cases h
    · exact Option.some.inj h
  have hnumeral := Numeral.toDigits n.natAbs
  have hne : Nat.toDigits 10 n.natAbs ≠ [] := Nat.toDigits_ne_nil
  obtain ⟨c, rest, hdigits⟩ := List.exists_cons_of_ne_nil hne
  rw [← String.ofList_toList (s := toString n), toList_toString_int, hdigits]
  rw [hdigits] at hnumeral
  rw [readLenient?_signed hnumeral.subset hnumeral.head,
    readDecimal?_numeral hnumeral (by simp), ← hdigits, numeralValue,
    Nat.ofDigitChars_ten_toDigits, ofDecimal_natural _ hrange, hratio]

end Double

/-! ## Doubles -/

section

variable {ds : List Char}

theorem layout_subset (hds : Numeral ds) (hne : ds ≠ []) (point : ℤ) :
    Double.layout ds point ⊆ numberChars := by
  rcases layout_eq hds hne point with ⟨t, hlayout, _⟩ | ⟨d, rfl, hlayout⟩
  · rw [hlayout]
    exact t.chars_subset
  · rw [hlayout]
    refine List.cons_subset.mpr ⟨hds.subset List.mem_cons_self, List.cons_subset.mpr
      ⟨by decide, List.cons_subset.mpr ⟨?_, (numeral_exponentDigits _).subset⟩⟩⟩
    split <;> decide

theorem exists_layout_eq_cons (hds : Numeral ds) (hne : ds ≠ []) (point : ℤ) :
    ∃ c rest, Double.layout ds point = c :: rest ∧ c.isDigit = true := by
  rcases layout_eq hds hne point with ⟨t, hlayout, _⟩ | ⟨d, rfl, hlayout⟩
  · rw [hlayout]
    exact t.exists_chars_eq_cons
  · exact ⟨d, _, hlayout, hds.head⟩

/-- A single digit with an exponent is read like a text with a point. -/
theorem readDecimal?_single {d : Char} (hd : d.isDigit = true) (exponent : ℤ) (negative : Bool) :
    readDecimal? negative
        (d :: 'e' :: (if exponent < 0 then '-' else '+') :: exponentDigits exponent.natAbs) =
      some (Double.ofDecimal negative (numeralValue [d]) exponent) := by
  obtain ⟨whole, hspan, hlength, hvalue⟩ := @spanDigits_append [d]
    ('e' :: (if exponent < 0 then '-' else '+') :: exponentDigits exponent.natAbs)
    (Numeral.nil.cons hd) (by simp)
  obtain ⟨digit, rfl⟩ := List.length_eq_one_iff.mp hlength
  have hpower : (if exponent < 0 then -(exponent.natAbs : ℤ) else exponent.natAbs) = exponent := by
    split <;> omega
  have hexponent := readExponent?_digits (numeral_exponentDigits exponent.natAbs)
    (exponentDigits_ne_nil _) (decide (exponent < 0))
  simp only [decide_eq_true_eq, numeralValue_exponentDigits, hpower] at hexponent
  have hnumber : ofDigits 10 [digit] = numeralValue [d] := hvalue 0
  rw [List.singleton_append] at hspan
  simp [readDecimal?, hspan, splitFraction, hexponent, hnumber]

/-- Digits that are laid out are read as their number, shifted to the point. -/
theorem readDecimal?_layout (hds : Numeral ds) (hne : ds ≠ []) (point : ℤ) (negative : Bool) :
    ∃ d : Decimal, readDecimal? negative (Double.layout ds point) =
        some (Double.ofDecimal negative d.digits d.exponent) ∧
      d.value = numeralValue ds * 10 ^ (point - ds.length) := by
  rcases layout_eq hds hne point with ⟨t, hlayout, hvalue⟩ | ⟨d, rfl, hlayout⟩
  · exact ⟨t.decimal, by rw [hlayout, t.readDecimal?_chars], hvalue⟩
  · exact ⟨⟨numeralValue [d], point - 1⟩, by rw [hlayout, readDecimal?_single hds.head], rfl⟩

end

namespace Double

theorem text_finite (negative : Bool) {m : ℕ} (hm : m ≠ 0) {e : ℤ} (h : Canonical m e) :
    (finite negative m e h).text = String.ofList (signed negative
      (layout (Nat.toDigits 10 (shortest m e).digits)
        ((Nat.toDigits 10 (shortest m e).digits).length + (shortest m e).exponent))) := by
  rw [text, if_neg hm]
  dsimp only
  rw [toList_toString]
  rfl

/-- A double is read as itself. -/
theorem readLenient?_text (x : Double) : readLenient? x.text = some x := by
  cases x with
  | nan => decide
  | infinity negative => cases negative <;> decide
  | finite negative m e h =>
      have ⟨htop, hleast, _, hnormal⟩ := canonical_iff.mp h
      by_cases hm : m = 0
      · obtain rfl : e = -1074 := by omega
        subst hm
        show readLenient? (signedZero negative).text = some (signedZero negative)
        cases negative <;> decide
      · have hpos : 0 < m := Nat.pos_of_ne_zero hm
        have hrounds := shortest_spec hpos htop hleast
        have hnumeral := Numeral.toDigits (shortest m e).digits
        have hne : Nat.toDigits 10 (shortest m e).digits ≠ [] := Nat.toDigits_ne_nil
        have hvalue : numeralValue (Nat.toDigits 10 (shortest m e).digits) =
            (shortest m e).digits := Nat.ofDigitChars_ten_toDigits
        rw [text_finite negative hm h]
        generalize Nat.toDigits 10 (shortest m e).digits = ds at hnumeral hne hvalue
        generalize hpoint : (ds.length + (shortest m e).exponent : ℤ) = point
        obtain ⟨d, hread, hd⟩ := readDecimal?_layout hnumeral hne point negative
        obtain ⟨c, rest, heq, hc⟩ := exists_layout_eq_cons hnumeral hne point
        have hsubset := layout_subset hnumeral hne point
        rw [heq] at hread hsubset ⊢
        rw [readLenient?_signed hsubset hc, hread]
        rw [← hpoint, add_sub_cancel_left, hvalue] at hd
        refine congrArg some (ofDecimal_eq h hpos ?_)
        rw [Decimal.value] at hd hrounds
        rwa [hd]

end Double

/-! ## Texts that are no numbers -/

theorem trimChars_cons {p : Char → Bool} {c : Char} (hc : p c = false) (cs : List Char) :
    ∃ rest, trimChars p (c :: cs) = c :: rest := by
  have hend : ∃ front, (cs.reverse ++ [c]).dropWhile p = front ++ [c] := by
    rw [List.dropWhile_append]
    split
    · exact ⟨[], by simp [hc]⟩
    · exact ⟨_, rfl⟩
  obtain ⟨front, hfront⟩ := hend
  refine ⟨front.reverse, ?_⟩
  rw [trimChars, List.dropWhile_cons_of_neg (by simp [hc]), List.reverse_cons, hfront,
    List.reverse_append, List.reverse_singleton, List.singleton_append]

theorem readPlain?_b (cs : List Char) : Double.readPlain? ('b' :: cs) = none := by
  have hspan : spanDigits ('b' :: cs) = ([], 'b' :: cs) := rfl
  have hlower : asciiLower 'b' = 'b' := by decide
  simp [Double.readPlain?, splitSign, hlower, readDecimal?, hspan, splitFraction]

/-- No number starts with a letter `b`. -/
theorem readLenient?_b (s : String) : Double.readLenient? ("b" ++ s) = none := by
  have hspace : isUnicodeSpace 'b' = false := by decide
  have hfold : foldDigit 'b' = 'b' := by decide
  obtain ⟨rest, hrest⟩ := trimChars_cons hspace s.toList
  have htext : ("b" ++ s).toList = 'b' :: s.toList := by
    rw [String.toList_append]
    rfl
  rw [Double.readLenient?, htext, hrest, List.map_cons, hfold]
  have hdrop : dropSeparators? none ('b' :: rest.map foldDigit) =
      (dropSeparators? (some 'b') (rest.map foldDigit)).map ('b' :: ·) := rfl
  rw [hdrop, Option.bind_map, Option.bind_eq_none_iff]
  exact fun cs _ => readPlain?_b cs

end NodeGraph
