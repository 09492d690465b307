import NodeGraph.Proofs.Number.Numeral

/-!
# The layout of a double

The text of a finite double spells the shortest decimal, whether it is laid out around the point or
with an exponent. The only text without a point is that of a single digit with an exponent.
-/

namespace NodeGraph

variable {ds : List Char}

theorem numeralValue_append_zeros (ds : List Char) (k : ℕ) :
    numeralValue (ds ++ List.replicate k '0') = 10 ^ k * numeralValue ds := by
  rw [numeralValue, Nat.ofDigitChars_append, Nat.ofDigitChars_replicate_zero]
  rfl

theorem numeralValue_zeros_append (ds : List Char) (k : ℕ) :
    numeralValue (List.replicate k '0' ++ ds) = numeralValue ds := by
  rw [numeralValue, Nat.ofDigitChars_append, Nat.ofDigitChars_replicate_zero, Nat.mul_zero]
  rfl

/-! ## Exponents -/

/-- The digits of an exponent, at least two. -/
def exponentDigits (n : ℕ) : List Char :=
  if (toString n).toList.length < 2 then '0' :: (toString n).toList else (toString n).toList

theorem toList_toString (n : ℕ) : (toString n).toList = Nat.toDigits 10 n := by
  rw [Nat.toString_eq_ofList_toDigits, String.toList_ofList]

theorem numeral_exponentDigits (n : ℕ) : Numeral (exponentDigits n) := by
  unfold exponentDigits
  rw [toList_toString]
  split
  · exact (Numeral.toDigits n).cons rfl
  · exact Numeral.toDigits n

theorem exponentDigits_ne_nil (n : ℕ) : exponentDigits n ≠ [] := by
  unfold exponentDigits
  rw [toList_toString]
  split
  · simp
  · exact Nat.toDigits_ne_nil

theorem numeralValue_exponentDigits (n : ℕ) : numeralValue (exponentDigits n) = n := by
  unfold exponentDigits
  rw [toList_toString]
  split
  · exact (numeralValue_zeros_append _ 1).trans Nat.ofDigitChars_ten_toDigits
  · exact Nat.ofDigitChars_ten_toDigits

/-! ## Texts with a point -/

/-- Digits with an exponent behind them, as a text with a point. -/
def PointText.scientific (d : Char) (fraction : List Char) (exponent : ℤ) (hd : d.isDigit = true)
    (hfraction : Numeral fraction) (hne : fraction ≠ []) : PointText where
  whole := [d]
  fraction := fraction
  exponent := some (decide (exponent < 0), exponentDigits exponent.natAbs)
  whole_numeral := Numeral.nil.cons hd
  whole_ne_nil := by simp
  fraction_numeral := hfraction
  fraction_ne_nil := hne
  exponent_numeral := by
    rintro p hp
    obtain rfl := Option.some.inj hp
    exact ⟨numeral_exponentDigits _, exponentDigits_ne_nil _⟩

/-- Digits around a point, without an exponent. -/
def PointText.positional (whole fraction : List Char) (hwhole : Numeral whole) (hne : whole ≠ [])
    (hfraction : Numeral fraction) (hne' : fraction ≠ []) : PointText where
  whole := whole
  fraction := fraction
  exponent := none
  whole_numeral := hwhole
  whole_ne_nil := hne
  fraction_numeral := hfraction
  fraction_ne_nil := hne'
  exponent_numeral := by simp

theorem PointText.power_scientific {d : Char} {fraction : List Char} {exponent : ℤ}
    (hd : d.isDigit = true) (hfraction : Numeral fraction) (hne : fraction ≠ []) :
    (scientific d fraction exponent hd hfraction hne).power = exponent := by
  simp only [scientific, power, numeralValue_exponentDigits, decide_eq_true_eq]
  split <;> omega

theorem PointText.value_positional {whole fraction : List Char} (hwhole : Numeral whole)
    (hne : whole ≠ []) (hfraction : Numeral fraction) (hne' : fraction ≠ []) :
    (positional whole fraction hwhole hne hfraction hne').decimal.value =
      numeralValue (whole ++ fraction) * 10 ^ (-(fraction.length : ℤ)) := by
  simp only [Decimal.value, decimal, power, positional, zero_sub]

theorem PointText.chars_positional {whole fraction : List Char} (hwhole : Numeral whole)
    (hne : whole ≠ []) (hfraction : Numeral fraction) (hne' : fraction ≠ []) :
    (positional whole fraction hwhole hne hfraction hne').chars = whole ++ '.' :: fraction := by
  simp [chars, tail, positional]

/-- The digits `ds`, laid out with the point behind the first `point` of them, spell their number
shifted to the point. -/
theorem layout_eq (hds : Numeral ds) (hne : ds ≠ []) (point : ℤ) :
    (∃ t : PointText, Double.layout ds point = t.chars ∧
      t.decimal.value = numeralValue ds * 10 ^ (point - ds.length)) ∨
    ∃ d, ds = [d] ∧ Double.layout ds point =
      d :: 'e' :: (if point - 1 < 0 then '-' else '+') :: exponentDigits (point - 1).natAbs := by
  have hzero : Numeral ['0'] := Numeral.zeros 1
  unfold Double.layout
  dsimp only
  split
  · left
    split
    · -- zeros between the point and the digits
      rename_i hleft
      obtain ⟨k, rfl⟩ : ∃ k : ℕ, point = -k := ⟨point.natAbs, by omega⟩
      rw [Int.natAbs_neg, Int.natAbs_natCast]
      refine ⟨.positional ['0'] (List.replicate k '0' ++ ds) hzero (by simp)
        ((Numeral.zeros k).append hds) (by simp [hne]), ?_, ?_⟩
      · rw [PointText.chars_positional]
        rfl
      · rw [PointText.value_positional, ← List.append_assoc, ← List.replicate_one (a := '0'),
          List.replicate_append_replicate, numeralValue_zeros_append, List.length_append,
          List.length_replicate]
        congr 2
        push_cast
        ring
    · rename_i hright
      obtain ⟨k, rfl⟩ : ∃ k : ℕ, point = k := ⟨point.natAbs, by omega⟩
      rw [Int.natAbs_natCast]
      split
      · -- the point among the digits
        rename_i hinside
        have htake : ds.take k ≠ [] := by
          simp only [ne_eq, List.take_eq_nil_iff]
          rintro (rfl | rfl)
          · exact hright le_rfl
          · exact hne rfl
        have hdrop : ds.drop k ≠ [] := by
          simp only [ne_eq, List.drop_eq_nil_iff]
          omega
        refine ⟨.positional (ds.take k) (ds.drop k) (hds.sublist (List.take_sublist ..)) htake
          (hds.sublist (List.drop_sublist ..)) hdrop, (PointText.chars_positional ..).symm, ?_⟩
        rw [PointText.value_positional, List.take_append_drop, List.length_drop]
        congr 2
        omega
      · -- zeros between the digits and the point
        rename_i hbehind
        obtain ⟨j, rfl⟩ : ∃ j : ℕ, k = ds.length + j := ⟨k - ds.length, by omega⟩
        have hj : ((ds.length + j : ℕ) - (ds.length : ℤ)).natAbs = j := by omega
        rw [hj]
        refine ⟨.positional (ds ++ List.replicate j '0') ['0'] (hds.append (Numeral.zeros j))
          (by simp [hne]) hzero (by simp), ?_, ?_⟩
        · rw [PointText.chars_positional]
        · rw [PointText.value_positional, List.append_assoc, ← List.replicate_one (a := '0'),
            List.replicate_append_replicate, numeralValue_append_zeros, pow_succ,
            List.length_replicate]
          push_cast
          rw [add_sub_cancel_left, zpow_natCast, zpow_neg, zpow_one]
          ring
  · have hsize : (if (toString (point - 1).natAbs).toList.length < 2 then
        '0' :: (toString (point - 1).natAbs).toList else (toString (point - 1).natAbs).toList) =
        exponentDigits (point - 1).natAbs := rfl
    rw [hsize]
    match ds, hne with
    | [d], _ => exact .inr ⟨d, rfl, rfl⟩
    | d :: d' :: more, _ =>
      left
      refine ⟨.scientific d (d' :: more) (point - 1) hds.head hds.tail (by simp), ?_, ?_⟩
      · simp [PointText.chars, PointText.tail, PointText.scientific]
      · rw [Decimal.value, PointText.decimal, PointText.power_scientific]
        simp only [PointText.scientific, List.singleton_append, List.length_cons]
        congr 2
        push_cast
        ring

end NodeGraph
