import Mathlib.Algebra.Order.Field.Power
import Mathlib.Data.Rat.Cast.Order
import Mathlib.Tactic.FieldSimp
import Mathlib.Tactic.Linarith
import Mathlib.Tactic.NormNum
import Mathlib.Tactic.Positivity
import Mathlib.Tactic.Ring
import NodeGraph.Number.Double

/-!
# Rounding to the nearest double

Which ratios round to a given positive double. `Double.RoundsTo` describes them as an interval
around the double, and a ratio inside it is rounded to exactly that double, whatever numerator and
denominator it is written with.
-/

namespace NodeGraph

/-! ## Nearest naturals -/

/-- A ratio no further than a half from a natural number is rounded to it, from exactly a half only
if the number is even. -/
theorem roundHalfEven_eq {num den m : ℕ} (hden : 0 < den) (hlow : 2 * (m * den) ≤ 2 * num + den)
    (hhigh : 2 * num ≤ 2 * (m * den) + den)
    (heven : m % 2 = 0 ∨ 2 * (m * den) < 2 * num + den ∧ 2 * num < 2 * (m * den) + den) :
    roundHalfEven num den = m := by
  have hsplit : den * (num / den) + num % den = num := Nat.div_add_mod num den
  have hrest : num % den < den := Nat.mod_lt num hden
  unfold roundHalfEven
  generalize num / den = q at hsplit ⊢
  generalize num % den = r at hsplit hrest ⊢
  -- the number is the quotient or the one after it
  have hq : q ≤ m := by
    by_contra hlt
    have hstep : (m + 1) * den ≤ q * den := Nat.mul_le_mul_right den (by omega)
    rw [Nat.add_mul, Nat.one_mul, Nat.mul_comm q den] at hstep
    have htight : 2 * num = 2 * (m * den) + den := by omega
    omega
  have hm : m ≤ q + 1 := by
    by_contra hlt
    have hstep : (q + 2) * den ≤ m * den := Nat.mul_le_mul_right den (by omega)
    rw [Nat.add_mul, Nat.mul_comm q den] at hstep
    omega
  rcases Nat.lt_or_eq_of_le hm with hlt | heq
  · obtain rfl : q = m := by omega
    rw [Nat.mul_comm q den] at hlow hhigh heven
    rw [if_pos]
    rcases heven with heven | ⟨_, hbelow⟩
    · rcases Nat.lt_or_ge (2 * r) den with hr | hr
      · exact .inl hr
      · exact .inr ⟨by omega, heven⟩
    · exact .inl (by omega)
  · subst heq
    rw [Nat.add_mul, Nat.one_mul, Nat.mul_comm q den] at hlow hhigh heven
    rw [if_neg]
    rintro (hr | ⟨hr, hq⟩)
    · omega
    · rcases heven with heven | ⟨habove, _⟩
      · omega
      · omega

namespace Double

/-! ## Powers of two -/

section

variable {num den : ℕ} {exponent : ℤ}

theorem overPower_pos (hnum : 0 < num) (hden : 0 < den) (exponent : ℤ) :
    0 < (overPower num den exponent).1 ∧ 0 < (overPower num den exponent).2 := by
  unfold overPower
  split
  · exact ⟨Nat.mul_pos hnum (Nat.pow_pos (by decide)), hden⟩
  · exact ⟨hnum, Nat.mul_pos hden (Nat.pow_pos (by decide))⟩

/-- A ratio over a power of two. -/
theorem overPower_ratio (num den : ℕ) (exponent : ℤ) :
    ((overPower num den exponent).1 : ℚ) / (overPower num den exponent).2 =
      (num : ℚ) / den / 2 ^ exponent := by
  unfold overPower
  split
  · rename_i hneg
    obtain ⟨k, rfl⟩ : ∃ k : ℕ, exponent = -k := ⟨exponent.natAbs, by omega⟩
    simp only [Int.natAbs_neg, Int.natAbs_natCast, Nat.pow_eq, Nat.cast_mul, Nat.cast_pow,
      Nat.cast_ofNat, zpow_neg, zpow_natCast]
    field_simp
  · rename_i hneg
    obtain ⟨k, rfl⟩ : ∃ k : ℕ, exponent = k := ⟨exponent.natAbs, by omega⟩
    simp only [Int.natAbs_natCast, Nat.pow_eq, Nat.cast_mul, Nat.cast_pow, Nat.cast_ofNat,
      zpow_natCast]
    field_simp

theorem two_zpow_pos (exponent : ℤ) : (0 : ℚ) < 2 ^ exponent := by positivity

theorem log2_bounds {n : ℕ} (hn : 0 < n) :
    (2 : ℚ) ^ (n.log2 : ℤ) ≤ n ∧ (n : ℚ) < 2 ^ ((n.log2 : ℤ) + 1) := by
  have hlow : 2 ^ n.log2 ≤ n := Nat.log2_self_le (by omega)
  have hhigh : n < 2 ^ (n.log2 + 1) := Nat.lt_log2_self
  constructor
  · rw [zpow_natCast]
    exact_mod_cast hlow
  · have heq : (n.log2 : ℤ) + 1 = ((n.log2 + 1 : ℕ) : ℤ) := by push_cast; ring
    rw [heq, zpow_natCast]
    exact_mod_cast hhigh

/-- The binary exponent of a ratio is that of the power of two just below it. -/
theorem binaryExponent_spec (hnum : 0 < num) (hden : 0 < den) :
    (2 : ℚ) ^ binaryExponent num den ≤ (num : ℚ) / den ∧
      (num : ℚ) / den < 2 ^ (binaryExponent num den + 1) := by
  obtain ⟨hnumLow, hnumHigh⟩ := log2_bounds hnum
  obtain ⟨hdenLow, hdenHigh⟩ := log2_bounds hden
  have hdenPos : (0 : ℚ) < den := by exact_mod_cast hden
  set guess : ℤ := (num.log2 : ℤ) - den.log2 with hguess
  have hbelow : (2 : ℚ) ^ (guess - 1) ≤ (num : ℚ) / den := by
    rw [le_div_iff₀ hdenPos]
    calc (2 : ℚ) ^ (guess - 1) * den
        ≤ 2 ^ (guess - 1) * 2 ^ ((den.log2 : ℤ) + 1) :=
          mul_le_mul_of_nonneg_left hdenHigh.le (two_zpow_pos _).le
      _ = 2 ^ (num.log2 : ℤ) := by
          rw [← zpow_add₀ two_ne_zero]
          congr 1
          omega
      _ ≤ num := hnumLow
  have habove : (num : ℚ) / den < 2 ^ (guess + 1) := by
    rw [div_lt_iff₀ hdenPos]
    calc (num : ℚ) < 2 ^ ((num.log2 : ℤ) + 1) := hnumHigh
      _ = 2 ^ (guess + 1) * 2 ^ (den.log2 : ℤ) := by
          rw [← zpow_add₀ two_ne_zero]
          congr 1
          omega
      _ ≤ 2 ^ (guess + 1) * den := mul_le_mul_of_nonneg_left hdenLow (two_zpow_pos _).le
  have hratio := overPower_ratio num den guess
  have hpos : (0 : ℚ) < (overPower num den guess).2 := by
    exact_mod_cast (overPower_pos hnum hden guess).2
  -- the guess is right or one too large, which the comparison tells
  have hcompare : (overPower num den guess).1 < (overPower num den guess).2 ↔
      (num : ℚ) / den < 2 ^ guess := by
    rw [← Nat.cast_lt (α := ℚ), ← div_lt_one hpos, hratio, div_lt_one (two_zpow_pos _)]
  unfold binaryExponent
  rw [← hguess]
  show (2 : ℚ) ^ (if (overPower num den guess).1 < (overPower num den guess).2 then guess - 1
    else guess) ≤ _ ∧ _ < (2 : ℚ) ^ ((if (overPower num den guess).1 <
      (overPower num den guess).2 then guess - 1 else guess) + 1)
  split
  · rename_i hlt
    refine ⟨hbelow, ?_⟩
    rw [sub_add_cancel]
    exact hcompare.mp hlt
  · rename_i hnot
    exact ⟨not_lt.mp fun hlt => hnot (hcompare.mpr hlt), habove⟩

end

/-! ## What rounds to a double -/

/-- Halfway from a positive double to the one below it, in quarters of its last place. Just above a
power of two the double below is only half a place away. -/
def lowQuarters (mantissa : ℕ) (exponent : ℤ) : ℕ :=
  if mantissa = 0x10000000000000 ∧ -1074 < exponent then 4 * mantissa - 1 else 4 * mantissa - 2

/-- The numbers nearer to `mantissa · 2 ^ exponent` than to its neighbours. Those halfway belong to
it if the mantissa is even. -/
def RoundsTo (mantissa : ℕ) (exponent : ℤ) (q : ℚ) : Prop :=
  if mantissa % 2 = 0 then
    lowQuarters mantissa exponent * 2 ^ (exponent - 2) ≤ q ∧
      q ≤ (4 * mantissa + 2) * 2 ^ (exponent - 2)
  else
    lowQuarters mantissa exponent * 2 ^ (exponent - 2) < q ∧
      q < (4 * mantissa + 2) * 2 ^ (exponent - 2)

section

variable {m : ℕ} {e : ℤ} {q : ℚ}

theorem RoundsTo.bounds (h : RoundsTo m e q) :
    lowQuarters m e * 2 ^ (e - 2) ≤ q ∧ q ≤ (4 * m + 2) * 2 ^ (e - 2) := by
  unfold RoundsTo at h
  split at h
  · exact h
  · exact ⟨h.1.le, h.2.le⟩

theorem lowQuarters_ge (hm : 0 < m) : 4 * (m : ℚ) - 2 ≤ lowQuarters m e := by
  have hle : 4 * m ≤ lowQuarters m e + 2 := by
    unfold lowQuarters
    split <;> omega
  have hcast : 4 * (m : ℚ) ≤ lowQuarters m e + 2 := by exact_mod_cast hle
  linarith

theorem RoundsTo.pos (hm : 0 < m) (h : RoundsTo m e q) : 0 < q := by
  have hone : (1 : ℚ) ≤ m := by exact_mod_cast hm
  have hlow := lowQuarters_ge (e := e) hm
  refine lt_of_lt_of_le ?_ h.bounds.1
  have hquarters : (0 : ℚ) < lowQuarters m e := by linarith
  positivity

theorem zpow_eq_quarters (k : ℕ) (e : ℤ) : (2 : ℚ) ^ (k + e) = 4 * 2 ^ k * 2 ^ (e - 2) := by
  have hfour : (4 : ℚ) = 2 ^ (2 : ℤ) := by norm_num
  rw [hfour, ← zpow_natCast, ← zpow_add₀ two_ne_zero, ← zpow_add₀ two_ne_zero]
  congr 1
  ring

theorem lt_of_zpow_le_of_lt {a b : ℤ} (h : (2 : ℚ) ^ a ≤ q) (h' : q < 2 ^ b) : a < b :=
  (zpow_lt_zpow_iff_right₀ one_lt_two).mp (h.trans_lt h')

/-- In places of the double's own exponent, what rounds to it lies within a half of its mantissa. -/
theorem RoundsTo.near (hm : 0 < m) (h : RoundsTo m e q) :
    (m : ℚ) - 1 / 2 ≤ q / 2 ^ e ∧ q / 2 ^ e ≤ m + 1 / 2 ∧
      (m % 2 = 0 ∨ (m : ℚ) - 1 / 2 < q / 2 ^ e ∧ q / 2 ^ e < m + 1 / 2) := by
  have hlow := lowQuarters_ge (e := e) hm
  have hunit : (2 : ℚ) ^ e = 4 * 2 ^ (e - 2) := by simpa using zpow_eq_quarters 0 e
  have hpos := two_zpow_pos (e - 2)
  have hbelow : ((m : ℚ) - 1 / 2) * 2 ^ e ≤ lowQuarters m e * 2 ^ (e - 2) := by
    rw [hunit]
    nlinarith
  have habove : (4 * (m : ℚ) + 2) * 2 ^ (e - 2) = (m + 1 / 2) * 2 ^ e := by
    rw [hunit]
    ring
  have hbounds := h.bounds
  rw [habove] at hbounds
  refine ⟨(le_div_iff₀ (two_zpow_pos e)).mpr (hbelow.trans hbounds.1),
    (div_le_iff₀ (two_zpow_pos e)).mpr hbounds.2, ?_⟩
  unfold RoundsTo at h
  split at h
  · rename_i heven
    exact .inl heven
  · rw [habove] at h
    exact .inr ⟨(lt_div_iff₀ (two_zpow_pos e)).mpr (hbelow.trans_lt h.1),
      (div_lt_iff₀ (two_zpow_pos e)).mpr h.2⟩

end

/-- The same bounds for the naturals that stand for a ratio. -/
theorem roundHalfEven_of_near {num den m : ℕ} (hden : 0 < den)
    (hlow : (m : ℚ) - 1 / 2 ≤ num / den) (hhigh : (num : ℚ) / den ≤ m + 1 / 2)
    (heven : m % 2 = 0 ∨ (m : ℚ) - 1 / 2 < num / den ∧ (num : ℚ) / den < m + 1 / 2) :
    roundHalfEven num den = m := by
  have hdenPos : (0 : ℚ) < den := by exact_mod_cast hden
  rw [le_div_iff₀ hdenPos] at hlow
  rw [div_le_iff₀ hdenPos] at hhigh
  rw [lt_div_iff₀ hdenPos, div_lt_iff₀ hdenPos] at heven
  refine roundHalfEven_eq hden ?_ ?_ ?_
  · have hcast : (2 : ℚ) * (m * den) ≤ 2 * num + den := by linarith
    exact_mod_cast hcast
  · have hcast : (2 : ℚ) * num ≤ 2 * (m * den) + den := by linarith
    exact_mod_cast hcast
  · refine heven.imp id ?_
    rintro ⟨hbelow, habove⟩
    have hcastBelow : (2 : ℚ) * (m * den) < 2 * num + den := by linarith
    have hcastAbove : (2 : ℚ) * num < 2 * (m * den) + den := by linarith
    exact ⟨by exact_mod_cast hcastBelow, by exact_mod_cast hcastAbove⟩

/-! ## Rounding -/

theorem ofForm_eq {negative : Bool} {m : ℕ} {e : ℤ} (h : Canonical m e) :
    ofForm negative m e = .finite negative m e h :=
  dif_pos h

/-- The definition of rounding, once the exponent is known. -/
theorem ofRatio_of_exponent {negative : Bool} {num den : ℕ} {exponent : ℤ} (hnum : 0 < num)
    (h : max (binaryExponent num den - 52) (-1074) = exponent) :
    ofRatio negative num den =
      let mantissa := roundHalfEven (overPower num den exponent).1 (overPower num den exponent).2
      if mantissa = 0x20000000000000 then ofForm negative 0x10000000000000 (exponent + 1)
      else ofForm negative mantissa exponent := by
  unfold ofRatio
  rw [if_neg (by omega), h]
  dsimp only
  split
  · rfl
  · rfl

/-- What rounds to a double has no binary place above those of the mantissa. -/
theorem RoundsTo.lt_zpow {m : ℕ} {e : ℤ} {q : ℚ} (htop : m < 0x20000000000000)
    (h : RoundsTo m e q) : q < 2 ^ (53 + e) := by
  have hcast : (m : ℚ) + 1 ≤ 2 ^ 53 := by exact_mod_cast htop
  have hpower := zpow_eq_quarters 53 e
  push_cast at hpower
  rw [hpower]
  exact h.bounds.2.trans_lt (mul_lt_mul_of_pos_right (by linarith) (two_zpow_pos _))

/-- Only a power of two has what rounds to it below its own binary place. -/
theorem RoundsTo.eq_of_lt_zpow {m : ℕ} {e : ℤ} {q : ℚ} (hleast : 0x10000000000000 ≤ m)
    (h : RoundsTo m e q) (hbelow : q < 2 ^ (52 + e)) : m = 0x10000000000000 := by
  by_contra hne
  have hgt : 0x10000000000000 + 1 ≤ m := by omega
  have hcast : (2 : ℚ) ^ 52 + 1 ≤ m := by exact_mod_cast hgt
  have hlow := lowQuarters_ge (e := e) (show 0 < m by omega)
  have hpower := zpow_eq_quarters 52 e
  push_cast at hpower
  rw [hpower] at hbelow
  exact absurd ((mul_le_mul_of_nonneg_right (by linarith) (two_zpow_pos _).le).trans h.bounds.1)
    (not_le.mpr hbelow)

section

variable {negative : Bool} {m num den : ℕ} {e : ℤ}

/-- A ratio with the same last place as the double is rounded to its mantissa. -/
theorem ofRatio_of_place (hcanonical : Canonical m e) (hm : 0 < m) (hnum : 0 < num)
    (hden : 0 < den) (h : RoundsTo m e (num / den))
    (hplace : max (binaryExponent num den - 52) (-1074) = e) :
    ofRatio negative num den = .finite negative m e hcanonical := by
  obtain ⟨hlow, hhigh, heven⟩ := h.near hm
  rw [← overPower_ratio] at hlow hhigh heven
  have hround := roundHalfEven_of_near (overPower_pos hnum hden e).2 hlow hhigh heven
  rw [ofRatio_of_exponent hnum hplace, hround]
  dsimp only
  rw [if_neg (Nat.ne_of_lt (canonical_iff.mp hcanonical).1), ofForm_eq hcanonical]

/-- A ratio just below a power of two, with a place more than the power, is rounded up to it. -/
theorem ofRatio_of_below (hcanonical : Canonical 0x10000000000000 e) (hleast : -1074 < e)
    (hnum : 0 < num) (hden : 0 < den) (h : RoundsTo 0x10000000000000 e (num / den))
    (hbelow : (num : ℚ) / den < 2 ^ (52 + e)) :
    ofRatio negative num den = .finite negative 0x10000000000000 e hcanonical := by
  obtain ⟨hbinLow, hbinHigh⟩ := binaryExponent_spec hnum hden
  have hpos := two_zpow_pos (e - 2)
  have hlow := h.bounds.1
  have hcount : (lowQuarters 0x10000000000000 e : ℚ) = 4 * 2 ^ 52 - 1 := by
    rw [lowQuarters, if_pos ⟨rfl, hleast⟩]
    norm_num
  rw [hcount] at hlow
  have hplace : max (binaryExponent num den - 52) (-1074) = e - 1 := by
    have hpower := zpow_eq_quarters 51 e
    push_cast at hpower
    have hge : (2 : ℚ) ^ (51 + e) ≤ num / den := by
      rw [hpower]
      exact (mul_le_mul_of_nonneg_right (by norm_num) hpos.le).trans hlow
    have habove : 51 + e < binaryExponent num den + 1 := lt_of_zpow_le_of_lt hge hbinHigh
    have hunder : binaryExponent num den < 52 + e := lt_of_zpow_le_of_lt hbinLow hbelow
    omega
  have hhalf : (2 : ℚ) ^ (e - 1) = 2 * 2 ^ (e - 2) := by
    have hstep : e - 1 = 1 + (e - 2) := by ring
    rw [hstep, zpow_add₀ two_ne_zero, zpow_one]
  have hround : roundHalfEven (overPower num den (e - 1)).1 (overPower num den (e - 1)).2 =
      0x20000000000000 := by
    refine roundHalfEven_of_near (overPower_pos hnum hden _).2 ?_ ?_ (.inl (by decide))
    · rw [overPower_ratio, le_div_iff₀ (two_zpow_pos _), hhalf]
      refine le_trans (le_of_eq ?_) hlow
      push_cast
      ring
    · have hpower := zpow_eq_quarters 52 e
      push_cast at hpower
      rw [overPower_ratio, div_le_iff₀ (two_zpow_pos _), hhalf]
      refine hbelow.le.trans ?_
      rw [hpower, ← mul_assoc]
      exact mul_le_mul_of_nonneg_right (by norm_num) hpos.le
  rw [ofRatio_of_exponent hnum hplace, hround]
  simp only [if_true, sub_add_cancel]
  exact ofForm_eq hcanonical

/-- A ratio that rounds to a double is rounded to it. -/
theorem ofRatio_eq (hcanonical : Canonical m e) (hm : 0 < m) (hnum : 0 < num) (hden : 0 < den)
    (h : RoundsTo m e (num / den)) :
    ofRatio negative num den = .finite negative m e hcanonical := by
  have ⟨htop, hleast, _, hnormal⟩ := canonical_iff.mp hcanonical
  obtain ⟨hbinLow, hbinHigh⟩ := binaryExponent_spec hnum hden
  have hbin : binaryExponent num den < 53 + e := lt_of_zpow_le_of_lt hbinLow (h.lt_zpow htop)
  by_cases hplace : e = -1074 ∨ (2 : ℚ) ^ (52 + e) ≤ num / den
  · refine ofRatio_of_place hcanonical hm hnum hden h ?_
    rcases hplace with rfl | hge
    · omega
    · have hlt : 52 + e < binaryExponent num den + 1 := lt_of_zpow_le_of_lt hge hbinHigh
      omega
  · rw [not_or, not_le] at hplace
    obtain ⟨he, hbelow⟩ := hplace
    obtain rfl := h.eq_of_lt_zpow (by omega) hbelow
    exact ofRatio_of_below hcanonical (by omega) hnum hden h hbelow

end

end Double

end NodeGraph
