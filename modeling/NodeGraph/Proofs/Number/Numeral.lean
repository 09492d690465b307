import Mathlib.Data.Nat.Digits.Defs
import Mathlib.Tactic.IntervalCases
import NodeGraph.Number.Reading
import NodeGraph.Proofs.Number.Shortest

/-!
# Numerals

Runs of decimal digits and the texts of doubles, which are made of them: digits, a point, digits,
and maybe an exponent. Such a text is read as the decimal that it spells.
-/

namespace NodeGraph

/-! ## Digits -/

/-- All characters are ASCII digits. -/
def Numeral (cs : List Char) : Prop := ∀ c ∈ cs, c.isDigit = true

/-- The number that digits spell. -/
def numeralValue (cs : List Char) : ℕ := Nat.ofDigitChars 10 cs 0

namespace Numeral

variable {cs ds : List Char} {c : Char}

theorem nil : Numeral [] := by simp [Numeral]

theorem cons (hc : c.isDigit = true) (h : Numeral cs) : Numeral (c :: cs) :=
  List.forall_mem_cons.mpr ⟨hc, h⟩

theorem head (h : Numeral (c :: cs)) : c.isDigit = true := h c List.mem_cons_self

theorem tail (h : Numeral (c :: cs)) : Numeral cs := (List.forall_mem_cons.mp h).2

theorem append (h : Numeral cs) (h' : Numeral ds) : Numeral (cs ++ ds) :=
  List.forall_mem_append.mpr ⟨h, h'⟩

theorem sublist (h : Numeral cs) (hsub : ds.Sublist cs) : Numeral ds :=
  fun c hc => h c (hsub.subset hc)

theorem zeros (k : ℕ) : Numeral (List.replicate k '0') := by
  intro c hc
  rw [List.eq_of_mem_replicate hc]
  rfl

theorem toDigits (n : ℕ) : Numeral (Nat.toDigits 10 n) :=
  fun _ hc => Nat.isDigit_of_mem_toDigits (by decide) (by decide) hc

end Numeral

/-- A digit is one of ten characters. -/
theorem isDigit_cases {c : Char} (h : c.isDigit = true) : c ∈ "0123456789".toList := by
  obtain ⟨hlow, hhigh⟩ := Char.isDigit_iff_toNat.mp h
  have hlow' : 48 ≤ c.toNat := hlow
  have hhigh' : c.toNat ≤ 57 := hhigh
  rw [← Char.ofNat_toNat c]
  generalize c.toNat = n at hlow' hhigh'
  interval_cases n <;> decide

/-- What holds of the ten digits holds of every digit. -/
theorem forall_isDigit {p : Char → Prop} (h : ∀ c ∈ "0123456789".toList, p c) {c : Char}
    (hc : c.isDigit = true) : p c := h c (isDigit_cases hc)

theorem isDigit_iff_range {c : Char} : c.isDigit = true ↔ '0' ≤ c ∧ c ≤ '9' := by
  rw [Char.isDigit, Bool.and_eq_true, decide_eq_true_iff, decide_eq_true_iff]
  rfl

theorem asciiDigit?_of_isDigit {c : Char} (h : c.isDigit = true) :
    asciiDigit? c = some (c.toNat - 48) := by
  rw [asciiDigit?, if_pos (isDigit_iff_range.mp h)]

theorem asciiDigit?_eq_none {c : Char} (h : c.isDigit = false) : asciiDigit? c = none := by
  have hrange : ¬ ('0' ≤ c ∧ c ≤ '9') := by
    rw [← isDigit_iff_range, h]
    exact Bool.false_ne_true
  rw [asciiDigit?, if_neg hrange]

theorem ofDigits_digits (cs : List Char) (total : ℕ) :
    (cs.map fun c => c.toNat - 48).foldl (fun total digit => total * 10 + digit) total =
      Nat.ofDigitChars 10 cs total := by
  induction cs generalizing total with
  | nil => rfl
  | cons c cs ih =>
      rw [List.map_cons, List.foldl_cons, ih, Nat.ofDigitChars_cons, Nat.mul_comm]
      rfl

/-- Digits are read up to the first character that is none. -/
theorem spanDigits_append {cs rest : List Char} (h : Numeral cs)
    (hrest : ∀ c ∈ rest.head?, c.isDigit = false) :
    ∃ digits, spanDigits (cs ++ rest) = (digits, rest) ∧ digits.length = cs.length ∧
      ∀ total, digits.foldl (fun total digit => total * 10 + digit) total =
        Nat.ofDigitChars 10 cs total := by
  have hspan : spanDigits (cs ++ rest) = (cs.map (fun c => c.toNat - 48), rest) := by
    induction cs with
    | nil =>
        cases rest with
        | nil => rfl
        | cons c rest => simp [spanDigits, asciiDigit?_eq_none (hrest c rfl)]
    | cons c cs ih =>
        simp [spanDigits, asciiDigit?_of_isDigit h.head, ih h.tail]
  exact ⟨_, hspan, List.length_map _, fun total => ofDigits_digits cs total⟩

/-- An exponent is read as the number that its digits spell, with its sign. -/
theorem readExponent?_digits {digits : List Char} (h : Numeral digits) (hne : digits ≠ [])
    (negative : Bool) :
    readExponent? ('e' :: (if negative then '-' else '+') :: digits) =
      some (if negative then -(numeralValue digits : ℤ) else numeralValue digits) := by
  obtain ⟨values, hspan, hlength, hvalue⟩ := @spanDigits_append digits [] h (by simp)
  rw [List.append_nil] at hspan
  have hvalues : values ≠ [] := by
    intro hnil
    rw [hnil, List.length_nil] at hlength
    exact hne (List.length_eq_zero_iff.mp hlength.symm)
  have hnumber : ofDigits 10 values = numeralValue digits := hvalue 0
  obtain ⟨first, others, rfl⟩ := List.exists_cons_of_ne_nil hvalues
  cases negative <;> simp [readExponent?, splitSign, hspan, hnumber]

/-! ## Decimals with a point -/

/-- The text of a decimal: digits, a point, digits, and maybe an exponent, which is a sign, true
for minus, and digits. -/
structure PointText where
  whole : List Char
  fraction : List Char
  exponent : Option (Bool × List Char)
  whole_numeral : Numeral whole
  whole_ne_nil : whole ≠ []
  fraction_numeral : Numeral fraction
  fraction_ne_nil : fraction ≠ []
  exponent_numeral : ∀ p ∈ exponent, Numeral p.2 ∧ p.2 ≠ []

namespace PointText

/-- The exponent as it stands behind the digits. -/
def tail (t : PointText) : List Char :=
  match t.exponent with
  | none => []
  | some (negative, digits) => 'e' :: (if negative then '-' else '+') :: digits

def chars (t : PointText) : List Char := t.whole ++ '.' :: (t.fraction ++ t.tail)

/-- The power of ten that the exponent spells. -/
def power (t : PointText) : ℤ :=
  match t.exponent with
  | none => 0
  | some (negative, digits) => if negative then -(numeralValue digits : ℤ) else numeralValue digits

/-- The decimal that is spelled. -/
def decimal (t : PointText) : Decimal :=
  ⟨numeralValue (t.whole ++ t.fraction), t.power - t.fraction.length⟩

theorem readExponent?_tail (t : PointText) : readExponent? t.tail = some t.power := by
  unfold tail power
  cases hexponent : t.exponent with
  | none => rfl
  | some p =>
      obtain ⟨negative, digits⟩ := p
      obtain ⟨hnumeral, hne⟩ := t.exponent_numeral _ hexponent
      exact readExponent?_digits hnumeral hne negative

theorem tail_head (t : PointText) : ∀ c ∈ t.tail.head?, c.isDigit = false := by
  unfold tail
  split
  · simp
  · rintro c hc
    obtain rfl : 'e' = c := Option.some.inj hc
    rfl

/-- The text is read as the decimal that it spells. -/
theorem readDecimal?_chars (t : PointText) (negative : Bool) :
    readDecimal? negative t.chars =
      some (Double.ofDecimal negative t.decimal.digits t.decimal.exponent) := by
  obtain ⟨whole, hwhole, hwholeLength, hwholeValue⟩ :=
    @spanDigits_append t.whole ('.' :: (t.fraction ++ t.tail)) t.whole_numeral (by simp)
  obtain ⟨fraction, hfraction, hlength, hfractionValue⟩ :=
    spanDigits_append t.fraction_numeral t.tail_head
  have hne : whole.isEmpty = false := by
    rw [List.isEmpty_eq_false_iff]
    rintro rfl
    exact t.whole_ne_nil (List.length_eq_zero_iff.mp hwholeLength.symm)
  have hdigits : ofDigits 10 (whole ++ fraction) = numeralValue (t.whole ++ t.fraction) := by
    rw [ofDigits, List.foldl_append, hwholeValue, hfractionValue, numeralValue,
      Nat.ofDigitChars_append]
  simp [readDecimal?, chars, hwhole, splitFraction, hfraction, hne, t.readExponent?_tail, hdigits,
    decimal, hlength]

end PointText

end NodeGraph
