import Mathlib.Algebra.Order.Floor.Semifield
import Mathlib.Data.Rat.Floor
import NodeGraph.Number.Shortest
import NodeGraph.Proofs.Number.Rounding

/-!
# The shortest digits read back

The search for the shortest digits of a double ends at a decimal that rounds to it. The decimals of
seventeen digits are closer together than the interval of what rounds to a double is wide, so one of
the neighbours of the double among them lies inside.
-/

namespace NodeGraph

/-! ## Decimals -/

/-- The number that a decimal stands for. -/
def Decimal.value (d : Decimal) : ℚ := d.digits * 10 ^ d.exponent

theorem Decimal.value_trimZeros (fuel : ℕ) (d : Decimal) : (d.trimZeros fuel).value = d.value := by
  induction fuel generalizing d with
  | zero => rfl
  | succ fuel ih =>
      unfold trimZeros
      split
      · rename_i hzero
        rw [ih]
        have hdigits : d.digits = 10 * (d.digits / 10) := by omega
        have hcast : (d.digits : ℚ) = 10 * ((d.digits / 10 : ℕ) : ℚ) := by exact_mod_cast hdigits
        show ((d.digits / 10 : ℕ) : ℚ) * 10 ^ (d.exponent + 1) = d.digits * 10 ^ d.exponent
        rw [hcast, zpow_add_one₀ (by norm_num)]
        ring
      · rfl

namespace Double

/-- A positive number has as many digits as the power of ten above it. -/
theorem decimalLengthUpTo_spec (fuel n : ℕ) (h : n < 2 ^ fuel) :
    n < 10 ^ decimalLengthUpTo fuel n ∧
      (0 < n → 10 ^ decimalLengthUpTo fuel n ≤ 10 * n) := by
  induction fuel generalizing n with
  | zero =>
      obtain rfl : n = 0 := by omega
      simp [decimalLengthUpTo]
  | succ fuel ih =>
      rw [decimalLengthUpTo]
      split
      · rename_i hzero
        subst hzero
        simp
      · rename_i hpos
        have hsmall : n / 10 < 2 ^ fuel := by
          rw [pow_succ] at h
          omega
        obtain ⟨habove, hbelow⟩ := ih (n / 10) hsmall
        rw [pow_succ]
        refine ⟨by omega, fun _ => ?_⟩
        rcases Nat.eq_zero_or_pos (n / 10) with hzero | hmore
        · rw [hzero]
          have hone : decimalLengthUpTo fuel 0 = 0 := by cases fuel <;> simp [decimalLengthUpTo]
          rw [hone]
          omega
        · have := hbelow hmore
          omega

theorem decimalLength_bounds {n : ℕ} (h : 0 < n) :
    (10 : ℚ) ^ ((decimalLength n : ℤ) - 1) ≤ n ∧ (n : ℚ) < 10 ^ (decimalLength n : ℤ) := by
  obtain ⟨habove, hbelow⟩ := decimalLengthUpTo_spec (n.log2 + 1) n Nat.lt_log2_self
  constructor
  · rw [zpow_sub_one₀ (by norm_num), zpow_natCast, ← div_eq_mul_inv, div_le_iff₀ (by norm_num)]
    have hcast : (10 : ℚ) ^ decimalLength n ≤ 10 * n := by exact_mod_cast hbelow h
    linarith
  · rw [zpow_natCast]
    exact_mod_cast habove

theorem two_zpow_lt_ten_zpow {a b : ℕ} (h : 2 ^ a < 10 ^ b) {x y : ℤ} (hx : x = a) (hy : y = b) :
    (2 : ℚ) ^ x < 10 ^ y := by
  rw [hx, hy, zpow_natCast, zpow_natCast]
  exact_mod_cast h

theorem ten_zpow_pos (exponent : ℤ) : (0 : ℚ) < 10 ^ exponent := by positivity

/-! ## The interval of a double -/

section

variable {m : ℕ} {e : ℤ}

theorem interval_unit_pos (m : ℕ) (e : ℤ) : 0 < (interval m e).unit := by
  unfold interval
  dsimp only
  split
  · exact Nat.pow_pos (by decide)
  · exact Nat.one_pos

/-- The parts of the interval, in quarters of the last place. -/
theorem interval_parts (m : ℕ) (e : ℤ) :
    ((interval m e).low : ℚ) = lowQuarters m e * 2 ^ (e - 2) * (interval m e).unit ∧
      ((interval m e).value : ℚ) = 4 * m * 2 ^ (e - 2) * (interval m e).unit ∧
      ((interval m e).high : ℚ) = (4 * m + 2) * 2 ^ (e - 2) * (interval m e).unit ∧
      (interval m e).closed = decide (m % 2 = 0) := by
  unfold interval lowQuarters
  dsimp only
  split
  · rename_i hneg
    obtain ⟨k, hk⟩ : ∃ k : ℕ, e - 2 = -k := ⟨(e - 2).natAbs, by omega⟩
    have hunit : ((2 : ℚ) ^ (e - 2)) * (Nat.pow 2 (e - 2).natAbs : ℕ) = 1 := by
      rw [hk, Int.natAbs_neg, Int.natAbs_natCast, Nat.pow_eq, zpow_neg, zpow_natCast, Nat.cast_pow,
        Nat.cast_ofNat]
      exact inv_mul_cancel₀ (by positivity)
    simp only [mul_assoc, hunit, mul_one]
    push_cast
    simp
  · rename_i hpos
    obtain ⟨k, hk⟩ : ∃ k : ℕ, e - 2 = k := ⟨(e - 2).natAbs, by omega⟩
    rw [hk, Int.natAbs_natCast, Nat.pow_eq, zpow_natCast]
    push_cast
    simp

/-- The comparison multiplies a decimal and the bounds by one scale, the power of ten below the
point. -/
theorem holds_scaled (i : Interval) (digits : ℕ) (exponent : ℤ) : ∃ point scale : ℕ,
    (point : ℚ) = digits * 10 ^ exponent * i.unit * scale ∧ (0 : ℚ) < scale ∧
      i.holds digits exponent =
        if i.closed then decide (i.low * scale ≤ point ∧ point ≤ i.high * scale)
        else decide (i.low * scale < point ∧ point < i.high * scale) := by
  unfold Interval.holds
  by_cases hneg : exponent < 0
  · refine ⟨digits * i.unit, Nat.pow 10 exponent.natAbs, ?_, ?_, ?_⟩
    · obtain ⟨k, rfl⟩ : ∃ k : ℕ, exponent = -k := ⟨exponent.natAbs, by omega⟩
      rw [Int.natAbs_neg, Int.natAbs_natCast, Nat.pow_eq, zpow_neg, zpow_natCast]
      push_cast
      field_simp
    · rw [Nat.pow_eq]
      positivity
    · simp [hneg]
  · refine ⟨digits * i.unit * Nat.pow 10 exponent.natAbs, 1, ?_, by norm_num, ?_⟩
    · obtain ⟨k, rfl⟩ : ∃ k : ℕ, exponent = k := ⟨exponent.natAbs, by omega⟩
      rw [Int.natAbs_natCast, Nat.pow_eq, zpow_natCast]
      push_cast
      ring
    · simp [hneg]

/-- A decimal is taken to lie in the interval exactly if it rounds to the double. -/
theorem holds_iff {digits : ℕ} {exponent : ℤ} :
    (interval m e).holds digits exponent = true ↔ RoundsTo m e (digits * 10 ^ exponent) := by
  obtain ⟨hlow, _, hhigh, hclosed⟩ := interval_parts m e
  have hunit : (0 : ℚ) < (interval m e).unit := by exact_mod_cast interval_unit_pos m e
  obtain ⟨point, scale, hpoint, hscale, hholds⟩ := holds_scaled (interval m e) digits exponent
  have hfactor : (0 : ℚ) < (interval m e).unit * scale := mul_pos hunit hscale
  have hle : ∀ {bound : ℕ} {b : ℚ}, (bound : ℚ) = b * (interval m e).unit →
      (bound * scale ≤ point ↔ b ≤ digits * 10 ^ exponent) := by
    intro bound b hb
    rw [← Nat.cast_le (α := ℚ), Nat.cast_mul, hb, hpoint, mul_assoc, mul_assoc _ _ (scale : ℚ),
      mul_le_mul_iff_left₀ hfactor]
  have hge : ∀ {bound : ℕ} {b : ℚ}, (bound : ℚ) = b * (interval m e).unit →
      (point ≤ bound * scale ↔ digits * 10 ^ exponent ≤ b) := by
    intro bound b hb
    rw [← Nat.cast_le (α := ℚ), Nat.cast_mul, hb, hpoint, mul_assoc, mul_assoc _ _ (scale : ℚ),
      mul_le_mul_iff_left₀ hfactor]
  rw [hholds, hclosed, RoundsTo]
  by_cases heven : m % 2 = 0
  · simp [heven, hle hlow, hge hhigh]
  · simp [heven, lt_iff_lt_of_le_iff_le (hge hlow), lt_iff_lt_of_le_iff_le (hle hhigh)]

/-! ## The grid of seventeen digits -/

/-- The number of a double, as numerator and denominator of the search. -/
theorem interval_value_eq (m : ℕ) (e : ℤ) :
    ((interval m e).value : ℚ) / (interval m e).unit = m * 2 ^ e := by
  obtain ⟨_, hvalue, _, _⟩ := interval_parts m e
  have hunit : ((interval m e).unit : ℚ) ≠ 0 := by
    exact_mod_cast (interval_unit_pos m e).ne'
  have hquarter : (2 : ℚ) ^ e = 4 * 2 ^ (e - 2) := by simpa using zpow_eq_quarters 0 e
  rw [hvalue, hquarter]
  field_simp

theorem least_le_value (hm : 0 < m) (he : -1074 ≤ e) : (10 : ℚ) ^ (-400 : ℤ) ≤ m * 2 ^ e := by
  have hone : (1 : ℚ) ≤ m := by exact_mod_cast hm
  have hpower : (2 : ℚ) ^ (-1074 : ℤ) ≤ 2 ^ e := zpow_le_zpow_right₀ (by norm_num) he
  have hleast : (10 : ℚ) ^ (-400 : ℤ) ≤ 2 ^ (-1074 : ℤ) := by
    rw [zpow_neg, zpow_neg]
    refine inv_anti₀ (by positivity) ?_
    exact (two_zpow_lt_ten_zpow (by decide +kernel : 2 ^ 1074 < 10 ^ 400) rfl rfl).le
  calc (10 : ℚ) ^ (-400 : ℤ) ≤ 1 * 2 ^ (-1074 : ℤ) := by rw [one_mul]; exact hleast
    _ ≤ m * 2 ^ e := mul_le_mul hone hpower (two_zpow_pos _).le (by linarith)

theorem interval_value_scaled (m : ℕ) (e : ℤ) (k : ℕ) :
    (((interval m e).value * Nat.pow 10 k : ℕ) : ℚ) / (interval m e).unit =
      m * 2 ^ e * 10 ^ (k : ℤ) := by
  rw [← interval_value_eq m e, Nat.pow_eq, zpow_natCast]
  push_cast
  ring

/-- A ratio lies between its whole part and the natural number after it. -/
theorem natDiv_bounds (num den : ℕ) :
    ((num / den : ℕ) : ℚ) ≤ (num : ℚ) / den ∧ (num : ℚ) / den < (num / den : ℕ) + 1 := by
  rw [← Nat.floor_div_eq_div (K := ℚ)]
  exact ⟨Nat.floor_le (by positivity), Nat.lt_floor_add_one _⟩

/-- Scaled by a power of ten that makes it at least one, a number has the digits of its whole
part. -/
theorem decimalLength_scaled {k : ℕ} (hone : (10 : ℚ) ^ (-k : ℤ) ≤ m * 2 ^ e) :
    let length : ℤ := decimalLength ((interval m e).value * Nat.pow 10 k / (interval m e).unit)
    (10 : ℚ) ^ (length - k - 1) ≤ m * 2 ^ e ∧ (m : ℚ) * 2 ^ e < 10 ^ (length - k) := by
  intro length
  obtain ⟨hfloor, hceil⟩ :=
    natDiv_bounds ((interval m e).value * Nat.pow 10 k) (interval m e).unit
  rw [interval_value_scaled] at hfloor hceil
  generalize hN : (interval m e).value * Nat.pow 10 k / (interval m e).unit = N at hfloor hceil
  have hlength : length = decimalLength N := by rw [← hN]
  rw [zpow_neg, inv_le_iff_one_le_mul₀ (ten_zpow_pos _)] at hone
  have hpos : 0 < N := by
    have hlt : (0 : ℚ) < N := by linarith
    exact_mod_cast hlt
  obtain ⟨hbelow, habove⟩ := decimalLength_bounds hpos
  rw [← hlength] at hbelow habove
  constructor
  · rw [sub_right_comm, zpow_sub₀ (by norm_num), div_le_iff₀ (ten_zpow_pos _)]
    exact hbelow.trans hfloor
  · have hnat : (N : ℚ) + 1 ≤ 10 ^ length := by
      rw [hlength, zpow_natCast] at habove ⊢
      exact_mod_cast habove
    rw [zpow_sub₀ (by norm_num), lt_div_iff₀ (ten_zpow_pos _)]
    exact hceil.trans_le hnat

theorem magnitude_eq (i : Interval) {k : ℕ} (hk : 400 = k) :
    i.magnitude = (decimalLength (i.value * Nat.pow 10 k / i.unit) : ℤ) - k := by
  have hcast : ((400 : ℕ) : ℤ) = 400 := rfl
  unfold Interval.magnitude
  rw [← hcast, hk]

/-- The magnitude is that of the power of ten just above the number. -/
theorem magnitude_bounds (hm : 0 < m) (he : -1074 ≤ e) :
    (10 : ℚ) ^ ((interval m e).magnitude - 1) ≤ m * 2 ^ e ∧
      (m : ℚ) * 2 ^ e < 10 ^ (interval m e).magnitude := by
  obtain ⟨k, hk⟩ : ∃ k : ℕ, 400 = k := ⟨400, rfl⟩
  have hcast : (-400 : ℤ) = -k := by omega
  have hleast := least_le_value hm he
  rw [hcast] at hleast
  rw [magnitude_eq _ hk]
  exact decimalLength_scaled hleast

/-- What the grid of `10 ^ exponent` offers for a number that is `num / den` on it. -/
def nearest (i : Interval) (exponent : ℤ) (num den : ℕ) : Option Decimal :=
  let below := num / den
  let lowerFirst := 2 * (num % den) < den ∨ (2 * (num % den) = den ∧ below % 2 = 0)
  match i.holds below exponent && below ≠ 0, i.holds (below + 1) exponent with
  | true, true => some ⟨if lowerFirst then below else below + 1, exponent⟩
  | true, false => some ⟨below, exponent⟩
  | false, true => some ⟨below + 1, exponent⟩
  | false, false => none

theorem onGrid_eq_nearest (m : ℕ) (e exponent : ℤ) :
    ∃ num den : ℕ, 0 < den ∧ (num : ℚ) / den = m * 2 ^ e / 10 ^ exponent ∧
      (interval m e).onGrid exponent = nearest (interval m e) exponent num den := by
  rw [← interval_value_eq m e]
  by_cases hneg : exponent < 0
  · refine ⟨(interval m e).value * Nat.pow 10 exponent.natAbs, (interval m e).unit,
      interval_unit_pos m e, ?_, ?_⟩
    · obtain ⟨k, rfl⟩ : ∃ k : ℕ, exponent = -k := ⟨exponent.natAbs, by omega⟩
      rw [Int.natAbs_neg, Int.natAbs_natCast, Nat.pow_eq, zpow_neg, zpow_natCast]
      push_cast
      field_simp
    · simp only [Interval.onGrid, if_pos hneg]
      rfl
  · refine ⟨(interval m e).value, (interval m e).unit * Nat.pow 10 exponent.natAbs,
      Nat.mul_pos (interval_unit_pos m e) (Nat.pow_pos (by decide)), ?_, ?_⟩
    · obtain ⟨k, rfl⟩ : ∃ k : ℕ, exponent = k := ⟨exponent.natAbs, by omega⟩
      rw [Int.natAbs_natCast, Nat.pow_eq, zpow_natCast]
      push_cast
      field_simp
    · simp only [Interval.onGrid, if_neg hneg]
      rfl

/-- The search on a grid finds a decimal that rounds to the double. -/
theorem onGrid_eq_some {exponent : ℤ} {d : Decimal}
    (h : (interval m e).onGrid exponent = some d) : 0 < d.digits ∧ RoundsTo m e d.value := by
  obtain ⟨num, den, _, _, hgrid⟩ := onGrid_eq_nearest m e exponent
  rw [hgrid, nearest] at h
  have hbelow : ((interval m e).holds (num / den) exponent && num / den ≠ 0) = true →
      0 < num / den ∧ RoundsTo m e ((num / den : ℕ) * 10 ^ exponent) := by
    intro hholds
    rw [Bool.and_eq_true, decide_eq_true_iff] at hholds
    exact ⟨Nat.pos_of_ne_zero hholds.2, holds_iff.mp hholds.1⟩
  have habove : (interval m e).holds (num / den + 1) exponent = true →
      0 < num / den + 1 ∧ RoundsTo m e ((num / den + 1 : ℕ) * 10 ^ exponent) :=
    fun hholds => ⟨Nat.succ_pos _, holds_iff.mp hholds⟩
  split at h
  · rename_i hlower hupper
    obtain rfl := Option.some.inj h
    unfold Decimal.value
    dsimp only
    split
    · exact hbelow hlower
    · exact habove hupper
  · rename_i hlower _
    obtain rfl := Option.some.inj h
    exact hbelow hlower
  · rename_i _ hupper
    obtain rfl := Option.some.inj h
    exact habove hupper
  · cases h

/-- If nothing is found, the neighbours of the double on the grid do not round to it. -/
theorem onGrid_eq_none {exponent : ℤ} (h : (interval m e).onGrid exponent = none) :
    ∃ below : ℕ, (below : ℚ) ≤ m * 2 ^ e / 10 ^ exponent ∧
      (m : ℚ) * 2 ^ e / 10 ^ exponent < below + 1 ∧
      (0 < below → ¬ RoundsTo m e (below * 10 ^ exponent)) ∧
      ¬ RoundsTo m e ((below + 1 : ℕ) * 10 ^ exponent) := by
  obtain ⟨num, den, hden, hratio, hgrid⟩ := onGrid_eq_nearest m e exponent
  rw [hgrid, nearest] at h
  obtain ⟨hfloor, hceil⟩ := natDiv_bounds num den
  rw [hratio] at hfloor hceil
  refine ⟨num / den, hfloor, hceil, ?_⟩
  · split at h
    any_goals cases h
    rename_i hlower hupper
    constructor
    · intro hpos hrounds
      rw [holds_iff.mpr hrounds, Bool.true_and, decide_eq_false_iff_not, not_not] at hlower
      omega
    · intro hrounds
      rw [holds_iff.mpr hrounds] at hupper
      cases hupper

theorem roundsTo_of_lt {q : ℚ} (hlow : lowQuarters m e * 2 ^ (e - 2) < q)
    (hhigh : q < (4 * m + 2) * 2 ^ (e - 2)) : RoundsTo m e q := by
  unfold RoundsTo
  split
  · exact ⟨hlow.le, hhigh.le⟩
  · exact ⟨hlow, hhigh⟩

/-- The interval is wider than four parts in ten to the sixteenth of the number. -/
theorem interval_wide (htop : m < 0x20000000000000) :
    4 * (m : ℚ) < ((4 * m + 2) - lowQuarters m e) * 10 ^ 16 := by
  unfold lowQuarters
  split
  · rename_i hboundary
    rw [hboundary.1]
    norm_num
  · have hle : ((4 * m - 2 : ℕ) : ℚ) ≤ 4 * m - 2 ∨ m = 0 := by
      rcases Nat.eq_zero_or_pos m with hzero | hpos
      · exact .inr hzero
      · rw [Nat.cast_sub (by omega)]
        push_cast
        exact .inl le_rfl
    have hm : (m : ℚ) ≤ 0x20000000000000 := by exact_mod_cast htop.le
    rcases hle with hle | rfl
    · have hfour : (4 : ℚ) ≤ 4 * m + 2 - (4 * m - 2 : ℕ) := by linarith
      have hscaled := mul_le_mul_of_nonneg_right hfour (by norm_num : (0 : ℚ) ≤ 10 ^ 16)
      have hvalue : 4 * (0x20000000000000 : ℚ) < 4 * 10 ^ 16 := by norm_num
      linarith
    · norm_num

/-- Seventeen digits are enough. -/
theorem onGrid_seventeen_ne_none (hm : 0 < m) (htop : m < 0x20000000000000) (he : -1074 ≤ e) :
    (interval m e).onGrid ((interval m e).magnitude - 17) ≠ none := by
  intro hnone
  obtain ⟨below, hle, hlt, hbelow, habove⟩ := onGrid_eq_none hnone
  obtain ⟨hleast, _⟩ := magnitude_bounds hm he
  set step : ℚ := 10 ^ ((interval m e).magnitude - 17) with hstep
  have hstepPos : 0 < step := ten_zpow_pos _
  have hunit := two_zpow_pos (e - 2)
  have hvalue : (m : ℚ) * 2 ^ e = 4 * m * 2 ^ (e - 2) := by
    have hquarter : (2 : ℚ) ^ e = 4 * 2 ^ (e - 2) := by simpa using zpow_eq_quarters 0 e
    rw [hquarter]
    ring
  -- the number is at least `10 ^ 16` steps large
  have hlarge : 10 ^ 16 * step ≤ m * 2 ^ e := by
    refine le_trans (le_of_eq ?_) hleast
    rw [hstep, ← zpow_natCast, ← zpow_add₀ (by norm_num)]
    congr 1
    push_cast
    ring
  have hbelowLe : (below : ℚ) * step ≤ m * 2 ^ e := (le_div_iff₀ hstepPos).mp hle
  have haboveLt : (m : ℚ) * 2 ^ e < (below + 1) * step := (div_lt_iff₀ hstepPos).mp hlt
  have hpos : 0 < below := by
    by_contra hzero
    obtain rfl : below = 0 := by omega
    push_cast at haboveLt
    linarith
  have hlow : (below : ℚ) * step ≤ lowQuarters m e * 2 ^ (e - 2) := by
    by_contra hgt
    refine hbelow hpos (roundsTo_of_lt (not_le.mp hgt) ?_)
    linarith
  have hhigh : (4 * (m : ℚ) + 2) * 2 ^ (e - 2) ≤ (below + 1) * step := by
    by_contra hgt
    rw [not_le] at hgt
    refine habove (roundsTo_of_lt ?_ (by push_cast; exact hgt))
    have hquarters : (lowQuarters m e : ℚ) ≤ 4 * m := by
      have hnat : lowQuarters m e ≤ 4 * m := by
        unfold lowQuarters
        split <;> omega
      exact_mod_cast hnat
    push_cast
    nlinarith
  -- both neighbours outside would make a step longer than the interval is wide
  have hwide := mul_lt_mul_of_pos_right (interval_wide (e := e) htop) hunit
  nlinarith

/-- The search ends at a decimal that rounds to the double if one of the grids has such a one. -/
theorem search_spec {magnitude : ℤ} {fuel count k : ℕ} (hcount : count ≤ k) (hk : k < count + fuel)
    (hfound : (interval m e).onGrid (magnitude - k) ≠ none) :
    0 < ((interval m e).search magnitude fuel count).digits ∧
      RoundsTo m e ((interval m e).search magnitude fuel count).value := by
  induction fuel generalizing count with
  | zero => omega
  | succ fuel ih =>
      rw [Interval.search]
      split
      · rename_i d hd
        exact onGrid_eq_some hd
      · rename_i hnone
        have hne : count ≠ k := by
          rintro rfl
          exact hfound hnone
        exact ih (by omega) (by omega)

/-- The shortest digits of a double round to it. -/
theorem shortest_spec (hm : 0 < m) (htop : m < 0x20000000000000) (he : -1074 ≤ e) :
    RoundsTo m e (shortest m e).value := by
  unfold shortest
  rw [Decimal.value_trimZeros]
  exact (search_spec (k := 17) (by decide) (by decide) (onGrid_seventeen_ne_none hm htop he)).2

end

/-! ## Reading decimals -/

theorem ten_zpow_lt {a b : ℤ} (h : (10 : ℚ) ^ a < 10 ^ b) : a < b :=
  (zpow_lt_zpow_iff_right₀ (by norm_num)).mp h

/-- What rounds to a double is far from the ends of the range in which numbers are looked at. -/
theorem RoundsTo.range {m : ℕ} {e : ℤ} {q : ℚ} (hm : 0 < m) (htop : m < 0x20000000000000)
    (hleast : -1074 ≤ e) (hmost : e ≤ 971) (h : RoundsTo m e q) :
    (10 : ℚ) ^ (-400 : ℤ) < q ∧ q < 10 ^ (400 : ℤ) := by
  obtain ⟨hlow, hhigh⟩ := h.bounds
  have hone : (1 : ℚ) ≤ m := by exact_mod_cast hm
  have hquarters := lowQuarters_ge (e := e) hm
  have hmTop : (m : ℚ) + 1 ≤ 0x20000000000000 := by exact_mod_cast htop
  constructor
  · have hpower : (2 : ℚ) ^ (-1076 : ℤ) ≤ 2 ^ (e - 2) :=
      zpow_le_zpow_right₀ (by norm_num) (by omega)
    have hten : (10 : ℚ) ^ (-400 : ℤ) < 2 ^ (-1076 : ℤ) := by
      rw [zpow_neg, zpow_neg]
      refine inv_strictAnti₀ (by positivity) ?_
      exact two_zpow_lt_ten_zpow (by decide +kernel : 2 ^ 1076 < 10 ^ 400) rfl rfl
    refine lt_of_lt_of_le (hten.trans_le hpower) (le_trans ?_ hlow)
    exact le_mul_of_one_le_left (two_zpow_pos _).le (by linarith)
  · have hpower : (2 : ℚ) ^ (e - 2) ≤ 2 ^ (969 : ℤ) := zpow_le_zpow_right₀ (by norm_num) (by omega)
    have hten : (2 : ℚ) ^ (55 : ℤ) * 2 ^ (969 : ℤ) < 10 ^ (400 : ℤ) := by
      rw [← zpow_add₀ two_ne_zero]
      exact two_zpow_lt_ten_zpow (by decide +kernel : 2 ^ 1024 < 10 ^ 400) rfl rfl
    refine lt_of_le_of_lt (hhigh.trans ?_) hten
    refine mul_le_mul ?_ hpower (two_zpow_pos _).le (by positivity)
    have hvalue : (2 : ℚ) ^ (55 : ℤ) = 4 * 0x20000000000000 := by norm_num
    rw [hvalue]
    linarith

/-- A decimal that rounds to a double is read as it. -/
theorem ofDecimal_eq {negative : Bool} {m digits : ℕ} {e exponent : ℤ}
    (hcanonical : Canonical m e) (hm : 0 < m) (h : RoundsTo m e (digits * 10 ^ exponent)) :
    ofDecimal negative digits exponent = .finite negative m e hcanonical := by
  have hdigits : 0 < digits := by
    by_contra hzero
    obtain rfl : digits = 0 := by omega
    have hvalue := h.pos hm
    simp at hvalue
  obtain ⟨hbelow, habove⟩ := decimalLength_bounds hdigits
  have ⟨htop, hlowest, hhighest, _⟩ := canonical_iff.mp hcanonical
  obtain ⟨hleast, hmost⟩ := h.range hm htop hlowest hhighest
  have hunit := ten_zpow_pos exponent
  have hsmall : ¬ 400 < (decimalLength digits : ℤ) + exponent := by
    have hle := mul_le_mul_of_nonneg_right hbelow hunit.le
    rw [← zpow_add₀ (by norm_num)] at hle
    have hlt := ten_zpow_lt (hle.trans_lt hmost)
    omega
  have hlarge : ¬ (decimalLength digits : ℤ) + exponent < -400 := by
    have hlt := mul_lt_mul_of_pos_right habove hunit
    rw [← zpow_add₀ (by norm_num)] at hlt
    have hlt' := ten_zpow_lt (hleast.trans hlt)
    omega
  unfold ofDecimal
  dsimp only
  rw [if_neg hdigits.ne', if_neg hsmall, if_neg hlarge]
  split
  · rename_i hneg
    obtain ⟨k, rfl⟩ : ∃ k : ℕ, exponent = -k := ⟨exponent.natAbs, by omega⟩
    refine ofRatio_eq hcanonical hm hdigits (Nat.pow_pos (by decide)) ?_
    rw [Int.natAbs_neg, Int.natAbs_natCast, Nat.pow_eq]
    rw [zpow_neg, zpow_natCast, ← div_eq_mul_inv] at h
    push_cast
    exact h
  · rename_i hpos
    obtain ⟨k, rfl⟩ : ∃ k : ℕ, exponent = k := ⟨exponent.natAbs, by omega⟩
    refine ofRatio_eq hcanonical hm (Nat.mul_pos hdigits (Nat.pow_pos (by decide))) Nat.one_pos ?_
    rw [Int.natAbs_natCast, Nat.pow_eq]
    rw [zpow_natCast] at h
    push_cast
    rw [div_one]
    exact h

end Double

end NodeGraph
