import NodeGraph.Proofs.Number.Rounding

/-!
# Integers out of range

Rounding gives a canonical form, but for an exponent above the greatest one, and only that makes an
infinity. So no double stands for the integers from half way between the largest finite double and
the power of two behind it on. An exact half is rounded to the even mantissa, which is that power.
-/

namespace NodeGraph

/-! ## Rounding up to the top -/

section

variable {num den top : ℕ}

/-- The nearest natural number lies between the quotient and the one after it. -/
theorem roundHalfEven_bounds (num den : ℕ) :
    num / den ≤ roundHalfEven num den ∧ roundHalfEven num den ≤ num / den + 1 := by
  unfold roundHalfEven
  dsimp only
  split <;> omega

theorem roundHalfEven_eq_top_iff (hden : 0 < den) (heven : top % 2 = 0) (hlt : num < top * den) :
    roundHalfEven num den = top ↔ (2 * top - 1) * den ≤ 2 * num := by
  have hsplit : den * (num / den) + num % den = num := Nat.div_add_mod num den
  have hrest : num % den < den := Nat.mod_lt num hden
  have hq : num / den < top := (Nat.div_lt_iff_lt_mul hden).mpr hlt
  unfold roundHalfEven
  generalize num / den = q at hsplit hq ⊢
  generalize num % den = r at hsplit hrest ⊢
  by_cases hlast : q + 1 = top
  · -- the quotient is odd, so an exact half goes up
    subst hlast
    have hodd : ¬ q % 2 = 0 := by omega
    have hdouble : (2 * (q + 1) - 1) * den = 2 * (den * q) + den := by
      have hpred : 2 * (q + 1) - 1 = 2 * q + 1 := by omega
      rw [hpred]
      ring
    rw [hdouble]
    by_cases hr : 2 * r < den
    · rw [if_pos (Or.inl hr)]
      omega
    · have hup : ¬ (2 * r < den ∨ 2 * r = den ∧ q % 2 = 0) := by tauto
      rw [if_neg hup]
      omega
  · have hfar : (2 * q + 3) * den ≤ (2 * top - 1) * den := Nat.mul_le_mul_right den (by omega)
    have hexpand : (2 * q + 3) * den = 2 * (den * q) + 3 * den := by ring
    dsimp only
    constructor
    · intro h
      split at h
      · omega
      · omega
    · intro h
      omega

end

namespace Double

/-! ## What is rounded to infinity -/

section

variable {negative : Bool} {num den : ℕ} {exponent : ℤ}

/-- Over the power that `ofRatio` chooses, a ratio is less than `2 ^ 53`, and it is at least
`2 ^ 52` unless that power is the least one. -/
theorem quotient_bounds (hnum : 0 < num) (hden : 0 < den) :
    let exponent := max (binaryExponent num den - 52) (-1074)
    let parts := overPower num den exponent
    parts.1 / parts.2 < 0x20000000000000 ∧
      (0x10000000000000 ≤ parts.1 / parts.2 ∨ exponent = -1074) := by
  intro exponent parts
  obtain ⟨hlow, hhigh⟩ := binaryExponent_spec hnum hden
  have hpos : 0 < parts.2 := (overPower_pos hnum hden exponent).2
  have hposQ : (0 : ℚ) < parts.2 := by exact_mod_cast hpos
  have hratio : (parts.1 : ℚ) / parts.2 = (num : ℚ) / den / 2 ^ exponent :=
    overPower_ratio num den exponent
  constructor
  · have hlt : (parts.1 : ℚ) / parts.2 < 0x20000000000000 := by
      rw [hratio, div_lt_iff₀ (two_zpow_pos _)]
      calc (num : ℚ) / den < 2 ^ (binaryExponent num den + 1) := hhigh
        _ ≤ 2 ^ ((53 : ℤ) + exponent) := zpow_le_zpow_right₀ one_le_two (by omega)
        _ = 0x20000000000000 * 2 ^ exponent := by
          rw [zpow_add₀ two_ne_zero]
          norm_num
    rw [div_lt_iff₀ hposQ] at hlt
    exact (Nat.div_lt_iff_lt_mul hpos).mpr (by exact_mod_cast hlt)
  · by_cases hleast : exponent = -1074
    · exact .inr hleast
    · have hle : (0x10000000000000 : ℚ) ≤ (parts.1 : ℚ) / parts.2 := by
        rw [hratio, le_div_iff₀ (two_zpow_pos _)]
        calc (0x10000000000000 : ℚ) * 2 ^ exponent = 2 ^ ((52 : ℤ) + exponent) := by
              rw [zpow_add₀ two_ne_zero]
              norm_num
          _ = 2 ^ binaryExponent num den := by
              congr 1
              omega
          _ ≤ (num : ℚ) / den := hlow
      rw [le_div_iff₀ hposQ] at hle
      exact .inl ((Nat.le_div_iff_mul_le hpos).mpr (by exact_mod_cast hle))

/-- A ratio is rounded to infinity only if its exponent is too great, at the latest after the
mantissa was rounded up to a power of two. -/
theorem ofRatio_eq_infinity_iff_of_exponent (hnum : 0 < num) (hden : 0 < den)
    (h : max (binaryExponent num den - 52) (-1074) = exponent) :
    ofRatio negative num den = .infinity negative ↔
      971 < exponent ∨ exponent = 971 ∧ roundHalfEven (overPower num den exponent).1
        (overPower num den exponent).2 = 0x20000000000000 := by
  have hform : ∀ m e, ofForm negative m e = .infinity negative ↔ ¬ Canonical m e := by
    intro m e
    unfold ofForm
    split <;> simp [*]
  obtain ⟨hhigh, hlow⟩ := quotient_bounds hnum hden
  rw [h] at hhigh hlow
  have hround := roundHalfEven_bounds (overPower num den exponent).1
    (overPower num den exponent).2
  rw [ofRatio_of_exponent hnum h]
  dsimp only
  split
  · rw [hform, canonical_iff]
    omega
  · rw [hform, canonical_iff]
    omega

end

/-! ## The bound -/

/-- Half the distance between the largest two doubles. -/
def topHalf : ℕ := 2 ^ 970

/-- The least natural number that is no nearer to the largest double than to the power of two behind
it: `2 ^ 1024 - 2 ^ 970`. -/
def overflowBound : ℕ := (2 ^ 54 - 1) * topHalf

/-- The exponent is kept as a variable, so that no power is ever computed. -/
theorem exists_topHalf_eq : ∃ t, t = 970 ∧ topHalf = 2 ^ t := ⟨970, rfl, rfl⟩

theorem overPower_natural (n k : ℕ) : overPower n 1 k = (n, 2 ^ k) := by
  rw [overPower, if_neg (by omega), Int.natAbs_natCast, Nat.one_mul]
  rfl

theorem binaryExponent_natural {n : ℕ} (hn : 0 < n) : binaryExponent n 1 = n.log2 := by
  have hlow : 2 ^ n.log2 ≤ n := Nat.log2_self_le (by omega)
  have hone : Nat.log2 1 = 0 := by decide
  have hguess : (n.log2 : ℤ) - (Nat.log2 1 : ℤ) = n.log2 := by simp [hone]
  unfold binaryExponent
  dsimp only
  rw [hguess, overPower_natural]
  dsimp only
  rw [if_neg (Nat.not_lt.mpr hlow)]

/-- A natural number is rounded to infinity from the bound on. -/
theorem ofRatio_eq_infinity_iff (negative : Bool) {n : ℕ} :
    ofRatio negative n 1 = .infinity negative ↔ overflowBound ≤ n := by
  obtain ⟨t, ht, hunit⟩ := exists_topHalf_eq
  have hpos : 0 < topHalf := hunit ▸ Nat.two_pow_pos t
  unfold overflowBound
  rcases Nat.eq_zero_or_pos n with rfl | hn
  · constructor
    · intro h
      cases h
    · intro h
      omega
  have hlow : 2 ^ n.log2 ≤ n := Nat.log2_self_le (by omega)
  have hhigh : n < 2 ^ (n.log2 + 1) := Nat.lt_log2_self
  have hplace : max (binaryExponent n 1 - 52) (-1074) = (n.log2 : ℤ) - 52 := by
    rw [binaryExponent_natural hn]
    omega
  rw [ofRatio_eq_infinity_iff_of_exponent hn Nat.one_pos hplace]
  rcases Nat.lt_trichotomy n.log2 (53 + t) with hbelow | hlast | habove
  · -- the exponent leaves room, whatever the mantissa is rounded to
    have hless : n < 2 ^ (53 + t) :=
      hhigh.trans_le (Nat.pow_le_pow_right (by decide) (by omega))
    rw [pow_add, ← hunit] at hless
    omega
  · -- only a mantissa that is rounded up to the next power of two is too large
    have hexponent : (n.log2 : ℤ) - 52 = ((1 + t : ℕ) : ℤ) := by omega
    have hless : n < 2 ^ (54 + t) := hhigh.trans_le (Nat.pow_le_pow_right (by decide) (by omega))
    rw [pow_add, ← hunit] at hless
    have hround : roundHalfEven n (2 * topHalf) = 0x20000000000000 ↔
        (2 ^ 54 - 1) * topHalf ≤ n := by
      rw [roundHalfEven_eq_top_iff (by omega) (by decide) (by omega)]
      omega
    rw [hexponent, overPower_natural, pow_add, ← hunit, ← hround, pow_one]
    dsimp only
    omega
  · have hleast : 2 ^ (54 + t) ≤ n := (Nat.pow_le_pow_right (by decide) (by omega)).trans hlow
    rw [pow_add, ← hunit] at hleast
    omega

theorem ofRatio_infinity {negative sign : Bool} {num den : ℕ}
    (h : ofRatio negative num den = .infinity sign) : sign = negative := by
  have hform : ∀ m e, ofForm negative m e = .infinity sign → sign = negative := by
    intro m e h
    unfold ofForm at h
    split at h
    · cases h
    · exact (infinity.inj h).symm
  unfold ofRatio at h
  dsimp only at h
  split at h
  · cases h
  · exact hform _ _ h

/-- An integer is out of the range of the doubles from the bound on, whatever its sign. -/
theorem ofInt?_eq_none_iff {n : ℤ} : ofInt? n = none ↔ overflowBound ≤ n.natAbs := by
  rw [← ofRatio_eq_infinity_iff (decide (n < 0))]
  unfold ofInt?
  split
  · rename_i sign h
    rw [h, ofRatio_infinity h]
    exact iff_of_true rfl rfl
  · rename_i hnot
    refine iff_of_false (Option.some_ne_none _) ?_
    intro h
    exact hnot _ h

end Double

end NodeGraph
