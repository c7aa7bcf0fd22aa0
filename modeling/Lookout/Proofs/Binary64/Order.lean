import Lookout.Proofs.Binary64
import Mathlib.Order.Monotone.Basic

/-! The order of binary64 numbers is that of their ranks: from one magnitude to the next, the value grows by the last
    place. So a number moved into the range from 0 to 1 by its rank is moved there by its value. -/

namespace Lookout.Binary64

/-- The absolute value of a number with these bits beside its sign. -/
def valueAt (m : ℕ) : ℚ :=
  (if m < fractionCount then m else m % fractionCount + fractionCount : ℕ) *
    2 ^ (((max (m / fractionCount) 1 : ℕ) : ℤ) - 1075)

theorem absolute_eq_valueAt (x : Binary64) : x.absolute = valueAt x.magnitude := rfl

/-- The next magnitude is greater by the last place, also where the exponent grows. -/
theorem valueAt_succ (m : ℕ) : valueAt (m + 1) = valueAt m + 2 ^ (((max (m / fractionCount) 1 : ℕ) : ℤ) - 1075) := by
  rw [valueAt, valueAt, fractionCount]
  -- Below the first exponent only the fraction grows.
  by_cases hsmall : m + 1 < 4503599627370496
  · rw [if_pos hsmall, if_pos (by omega), show (m + 1) / 4503599627370496 = 0 by omega,
      show m / 4503599627370496 = 0 by omega]
    push_cast
    ring
  by_cases hplace : m % 4503599627370496 + 1 < 4503599627370496
  · rw [if_neg hsmall, if_neg (by omega), show (m + 1) / 4503599627370496 = m / 4503599627370496 by omega,
      show (m + 1) % 4503599627370496 = m % 4503599627370496 + 1 by omega]
    push_cast
    ring
  -- Else the fraction is full. The step to the first exponent keeps the last place, every later one doubles it.
  by_cases hfirst : m < 4503599627370496
  · obtain rfl : m = 4503599627370495 := by omega
    rw [if_neg hsmall, if_pos hfirst, show (4503599627370495 + 1) % 4503599627370496 = 0 from rfl,
      show max ((4503599627370495 + 1) / 4503599627370496) 1 = max (4503599627370495 / 4503599627370496) 1 from rfl]
    push_cast
    ring
  · obtain ⟨k, rfl⟩ : ∃ k, m = k * 4503599627370496 + 9007199254740991 := ⟨m / 4503599627370496 - 1, by omega⟩
    rw [if_neg hsmall, if_neg hfirst, show (k * 4503599627370496 + 9007199254740991 + 1) % 4503599627370496 = 0 by omega,
      show (k * 4503599627370496 + 9007199254740991) % 4503599627370496 = 4503599627370495 by omega,
      show (k * 4503599627370496 + 9007199254740991 + 1) / 4503599627370496 = k + 2 by omega,
      show (k * 4503599627370496 + 9007199254740991) / 4503599627370496 = k + 1 by omega,
      show ((max (k + 2) 1 : ℕ) : ℤ) - 1075 = ((max (k + 1) 1 : ℕ) : ℤ) - 1075 + 1 by omega, zpow_add_one₀ two_ne_zero]
    push_cast
    ring

theorem valueAt_strictMono : StrictMono valueAt := strictMono_nat_of_lt_succ fun m => by
  rw [valueAt_succ]
  exact lt_add_of_pos_right _ (by positivity)

theorem valueAt_zero : valueAt 0 = 0 := by simp [valueAt, fractionCount]

/-- The value of the numbers with this rank. -/
def valueOfRank (r : ℤ) : ℚ := if r < 0 then -valueAt r.natAbs else valueAt r.natAbs

theorem toRat_eq_valueOfRank (x : Binary64) : x.toRat = valueOfRank x.rank := by
  rw [toRat_eq, absolute_eq_valueAt, rank, valueOfRank]
  cases x.isNegative with
  | false => simp
  | true =>
    -- Negative zero has the rank of zero.
    rcases Nat.eq_zero_or_pos x.magnitude with h | h
    · simp [h, valueAt_zero]
    · simp [h]

theorem valueOfRank_lt {a b : ℤ} (hab : a < b) : valueOfRank a < valueOfRank b := by
  rw [valueOfRank, valueOfRank]
  by_cases hb : b < 0
  · rw [if_pos (hab.trans hb), if_pos hb]
    exact neg_lt_neg (valueAt_strictMono (by omega))
  rw [if_neg hb]
  by_cases ha : a < 0
  · rw [if_pos ha]
    have hpos : 0 < valueAt a.natAbs := valueAt_zero ▸ valueAt_strictMono (by omega)
    have hnonneg : 0 ≤ valueAt b.natAbs := valueAt_zero ▸ valueAt_strictMono.monotone (Nat.zero_le _)
    linarith
  · rw [if_neg ha]
    exact valueAt_strictMono (by omega)

variable {x y : Binary64}

theorem toRat_le_iff : x.toRat ≤ y.toRat ↔ x.rank ≤ y.rank := by
  have hmono : StrictMono valueOfRank := fun _ _ => valueOfRank_lt
  rw [toRat_eq_valueOfRank, toRat_eq_valueOfRank, hmono.le_iff_le]

/-! ### The range from 0 to 1 -/

theorem toRat_zero : zero.toRat = 0 := by decide +kernel

theorem toRat_one : one.toRat = 1 := by decide +kernel

theorem rank_nonneg_iff : 0 ≤ x.rank ↔ 0 ≤ x.toRat := by
  rw [← toRat_zero, toRat_le_iff]
  rfl

theorem rank_pos_iff : 0 < x.rank ↔ 0 < x.toRat := by
  rw [← toRat_zero, ← not_le, ← not_le, toRat_le_iff]
  rfl

theorem rank_le_one_iff : x.rank ≤ one.rank ↔ x.toRat ≤ 1 := by
  rw [← toRat_one, toRat_le_iff]

/-- A finite number from 0 to 1, either zero among them. -/
structure InUnit (x : Binary64) : Prop where
  finite : x.isFinite = true
  nonneg : 0 ≤ x.toRat
  le_one : x.toRat ≤ 1

theorem InUnit.not_isNaN (h : x.InUnit) : x.isNaN = false := by
  have hfinite := h.finite
  rw [isFinite, decide_eq_true_eq] at hfinite
  exact decide_eq_false (Nat.lt_asymm hfinite)

theorem clampUnit_of_inUnit (h : x.InUnit) : x.clampUnit = x := by
  have hnonneg : ¬ x.rank < 0 := Int.not_lt.mpr (rank_nonneg_iff.mpr h.nonneg)
  have hle : ¬ one.rank < x.rank := Int.not_lt.mpr (rank_le_one_iff.mpr h.le_one)
  simp [clampUnit, h.finite, hnonneg, hle]

theorem clampUnit_of_not_finite (h : x.isFinite = false) : x.clampUnit = zero := by
  simp [clampUnit, h]

theorem toRat_clampUnit (h : x.isFinite = true) : x.clampUnit.toRat = max 0 (min 1 x.toRat) := by
  rw [clampUnit, h]
  by_cases hneg : x.rank < 0
  · have hle : x.toRat ≤ 0 := (not_le.mp (mt rank_nonneg_iff.mpr (Int.not_le.mpr hneg))).le
    simp [hneg, toRat_zero, hle]
  have hnonneg : 0 ≤ x.toRat := rank_nonneg_iff.mp (Int.not_lt.mp hneg)
  by_cases hone : one.rank < x.rank
  · have hle : 1 ≤ x.toRat := (not_le.mp (mt rank_le_one_iff.mpr (Int.not_le.mpr hone))).le
    simp [hneg, hone, toRat_one, hle]
  · have hle : x.toRat ≤ 1 := rank_le_one_iff.mp (Int.not_lt.mp hone)
    simp [hneg, hone, hnonneg, hle]

theorem inUnit_clampUnit (x : Binary64) : x.clampUnit.InUnit := by
  cases h : x.isFinite with
  | false =>
    rw [clampUnit_of_not_finite h]
    exact ⟨rfl, toRat_zero.ge, by rw [toRat_zero]; exact zero_le_one⟩
  | true =>
    refine ⟨?_, ?_, ?_⟩
    · rw [clampUnit]
      split
      · rfl
      split
      · rfl
      · exact h
    · rw [toRat_clampUnit h]
      exact le_max_left _ _
    · rw [toRat_clampUnit h]
      exact max_le zero_le_one (min_le_left _ _)

/-- Moving finite numbers into the range does not turn their order around. -/
theorem clampUnit_mono (hx : x.isFinite = true) (hy : y.isFinite = true) (h : x.toRat ≤ y.toRat) :
    x.clampUnit.toRat ≤ y.clampUnit.toRat := by
  rw [toRat_clampUnit hx, toRat_clampUnit hy]
  exact max_le_max_left 0 (min_le_min_left 1 h)

end Lookout.Binary64
