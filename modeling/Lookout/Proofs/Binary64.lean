import Lookout.Binary64
import Mathlib.Algebra.Order.Field.Power
import Mathlib.Data.Nat.Cast.Field
import Mathlib.Data.Rat.Cast.Order
import Mathlib.Tactic.FieldSimp
import Mathlib.Tactic.Linarith
import Mathlib.Tactic.Positivity
import Mathlib.Tactic.Ring

/-! Rounding to binary64 numbers. A quotient becomes a whole number of places, the nearest one, where the place is a
    power of two that leaves 53 binary digits above it, or the least place there is. -/

namespace Lookout.Binary64

/-- The absolute value of a finite number. -/
def absolute (x : Binary64) : ℚ := x.significand * 2 ^ x.exponent

theorem zpow_eq_div (b : ℕ) (hb : b ≠ 0) (e : ℤ) : (b : ℚ) ^ e = (b ^ e.toNat : ℕ) / (b ^ (-e).toNat : ℕ) := by
  have hb' : (b : ℚ) ≠ 0 := Nat.cast_ne_zero.mpr hb
  rcases le_total 0 e with h | h
  · lift e to ℕ using h
    simp
  · obtain ⟨n, rfl⟩ : ∃ n : ℕ, e = -n := ⟨(-e).toNat, by omega⟩
    simp

theorem absolute_eq_div (x : Binary64) : x.absolute = x.numerator / x.denominator := by
  rw [absolute, numerator, denominator, Nat.cast_mul, mul_div_assoc]
  exact congrArg ((x.significand : ℚ) * ·) (zpow_eq_div 2 (by decide) x.exponent)

theorem toRat_eq (x : Binary64) : x.toRat = (if x.isNegative then -1 else 1) * x.absolute := by
  rw [toRat, absolute_eq_div, mul_div_assoc]

theorem absolute_nonneg (x : Binary64) : 0 ≤ x.absolute := by
  rw [absolute]
  positivity

/-! ### The nearest number of places -/

/-- The number of places of `2 ^ e` that a positive number is rounded to. -/
structure Nearest (r : ℚ) (q : ℕ) (e : ℤ) : Prop where
  least : -1074 ≤ e
  near : |q * (2 : ℚ) ^ e - r| ≤ 2 ^ e / 2
  lt : r < 2 ^ (e + 53)
  le : e = -1074 ∨ 2 ^ (e + 52) ≤ r

theorem exists_zpow_eq {c e : ℤ} (h : e ≤ c) : ∃ n : ℕ, c = n + e ∧ (2 : ℚ) ^ c = (2 ^ n : ℕ) * 2 ^ e := by
  obtain ⟨n, hn⟩ := Int.eq_ofNat_of_zero_le (sub_nonneg.mpr h)
  have hc : c = n + e := by omega
  refine ⟨n, hc, ?_⟩
  rw [hc, zpow_add₀ two_ne_zero, zpow_natCast, Nat.cast_pow, Nat.cast_ofNat]

namespace Nearest

variable {r : ℚ} {q : ℕ} {e c : ℤ}

theorem natCast_le (h : Nearest r q e) {n : ℕ} (hn : n * (2 : ℚ) ^ e ≤ r) : n ≤ q := by
  have hpos : (0 : ℚ) < 2 ^ e := zpow_pos two_pos e
  have hnear := (abs_le.mp h.near).1
  have hlt : (n : ℚ) * 2 ^ e < (q + 1) * 2 ^ e := by linarith
  have hcast := lt_of_mul_lt_mul_right hlt hpos.le
  exact Nat.lt_succ_iff.mp (by exact_mod_cast hcast)

theorem le_natCast (h : Nearest r q e) {n : ℕ} (hn : r ≤ n * (2 : ℚ) ^ e) : q ≤ n := by
  have hpos : (0 : ℚ) < 2 ^ e := zpow_pos two_pos e
  have hnear := (abs_le.mp h.near).2
  have hlt : (q : ℚ) * 2 ^ e < (n + 1) * 2 ^ e := by linarith
  have hcast := lt_of_mul_lt_mul_right hlt hpos.le
  exact Nat.lt_succ_iff.mp (by exact_mod_cast hcast)

theorem pow_le_places (h : Nearest r q e) (he : e ≠ -1074) : 2 ^ 52 ≤ q := by
  refine h.natCast_le ?_
  have hlow := h.le.resolve_left he
  rw [add_comm, zpow_add₀ two_ne_zero] at hlow
  exact_mod_cast hlow

theorem places_le_pow (h : Nearest r q e) : q ≤ 2 ^ 53 := by
  refine h.le_natCast ?_
  have hlt := h.lt.le
  rw [add_comm, zpow_add₀ two_ne_zero] at hlt
  exact_mod_cast hlt

/-- A number with at most 53 binary digits is rounded to itself. -/
theorem exact (h : Nearest r q e) {s : ℕ} (hs : s < 2 ^ 53) (hc : -1074 ≤ c) (hr : r = s * 2 ^ c) :
    q * (2 : ℚ) ^ e = r := by
  by_cases hle : e ≤ c
  · obtain ⟨n, -, hn⟩ := exists_zpow_eq hle
    have hplaces : r = (s * 2 ^ n : ℕ) * 2 ^ e := by rw [hr, hn, Nat.cast_mul, mul_assoc]
    rw [le_antisymm (h.le_natCast hplaces.le) (h.natCast_le hplaces.ge), hplaces]
  · have hlow := h.le.resolve_left (by omega)
    have hsmall : r < 2 ^ (53 + c) := by
      have hcast : (s : ℚ) < 2 ^ (53 : ℤ) := by exact_mod_cast hs
      rw [hr, zpow_add₀ two_ne_zero]
      exact mul_lt_mul_of_pos_right hcast (zpow_pos two_pos c)
    have hpow : (2 : ℚ) ^ (53 + c) ≤ 2 ^ (e + 52) := zpow_le_zpow_right₀ one_le_two (by omega)
    exact absurd (hlow.trans_lt hsmall) (not_lt.mpr hpow)

theorem pow_le (h : Nearest r q e) (hc : -1074 ≤ c) (hr : 2 ^ c ≤ r) : (2 : ℚ) ^ c ≤ q * 2 ^ e := by
  have hpos : (0 : ℚ) < 2 ^ e := zpow_pos two_pos e
  by_cases hle : e ≤ c
  · obtain ⟨n, -, hn⟩ := exists_zpow_eq hle
    have hq : (2 ^ n : ℕ) ≤ q := h.natCast_le (hn ▸ hr)
    rw [hn]
    exact mul_le_mul_of_nonneg_right (Nat.cast_le.mpr hq) hpos.le
  · have hq : 1 ≤ q := le_trans (by decide) (h.pow_le_places (by omega))
    calc (2 : ℚ) ^ c ≤ 2 ^ e := zpow_le_zpow_right₀ one_le_two (by omega)
      _ ≤ q * 2 ^ e := le_mul_of_one_le_left hpos.le (Nat.one_le_cast.mpr hq)

theorem le_pow (h : Nearest r q e) (hc : -1074 ≤ c) (hr : r ≤ 2 ^ c) : (q : ℚ) * 2 ^ e ≤ 2 ^ c := by
  by_cases hle : e ≤ c
  · obtain ⟨n, -, hn⟩ := exists_zpow_eq hle
    have hq : q ≤ (2 ^ n : ℕ) := h.le_natCast (hn ▸ hr)
    rw [hn]
    exact mul_le_mul_of_nonneg_right (Nat.cast_le.mpr hq) (zpow_pos two_pos e).le
  · have hlow := h.le.resolve_left (by omega)
    have hpow : (2 : ℚ) ^ c < 2 ^ (e + 52) := zpow_lt_zpow_right₀ one_lt_two (by omega)
    exact absurd (hlow.trans hr) (not_le.mpr hpow)

/-- The error is half a place at most. -/
theorem error (h : Nearest r q e) (hr : 2 ^ (-1022 : ℤ) ≤ r) : |q * (2 : ℚ) ^ e - r| ≤ r * 2 ^ (-53 : ℤ) := by
  have hlow : 2 ^ (e + 52) ≤ r := by
    rcases h.le with rfl | hlow
    · exact hr
    · exact hlow
  calc |q * (2 : ℚ) ^ e - r| ≤ 2 ^ e / 2 := h.near
    _ = 2 ^ (e + 52) * 2 ^ (-53 : ℤ) := by
      rw [← zpow_add₀ two_ne_zero, add_assoc, show (52 : ℤ) + -53 = -1 by decide, zpow_add₀ two_ne_zero, zpow_neg_one,
        div_eq_mul_inv]
    _ ≤ r * 2 ^ (-53 : ℤ) := mul_le_mul_of_nonneg_right hlow (zpow_pos two_pos _).le

end Nearest

/-! ### Rounding finds it -/

section
variable {num den : ℕ}

theorem nearestQuotient_near (num : ℕ) (hden : 0 < den) :
    |(nearestQuotient num den : ℚ) - num / den| ≤ 1 / 2 := by
  have hpos : (0 : ℚ) < den := Nat.cast_pos.mpr hden
  have hquot : (num : ℚ) / den = (num / den : ℕ) + (num % den : ℕ) / den := by
    have hsplit : (num : ℚ) = den * (num / den : ℕ) + (num % den : ℕ) := by exact_mod_cast (Nat.div_add_mod num den).symm
    rw [hsplit, add_div, mul_div_cancel_left₀ _ hpos.ne']
  have hmod : num % den < den := Nat.mod_lt num hden
  have hnonneg : (0 : ℚ) ≤ (num % den : ℕ) / den := by positivity
  have hlt : ((num % den : ℕ) : ℚ) / den < 1 := (div_lt_one hpos).mpr (Nat.cast_lt.mpr hmod)
  rw [hquot, nearestQuotient, abs_le]
  split
  · next hdown =>
    simp only [Bool.or_eq_true, decide_eq_true_eq, Bool.and_eq_true, beq_iff_eq] at hdown
    have hle : ((num % den : ℕ) : ℚ) / den ≤ 1 / 2 := by
      rw [div_le_div_iff₀ hpos two_pos]
      exact_mod_cast (by omega : num % den * 2 ≤ 1 * den)
    constructor <;> linarith
  · next hup =>
    simp only [Bool.or_eq_true, decide_eq_true_eq, Bool.and_eq_true, beq_iff_eq, not_or] at hup
    have hle : 1 / 2 ≤ ((num % den : ℕ) : ℚ) / den := by
      rw [div_le_div_iff₀ two_pos hpos]
      exact_mod_cast (by omega : 1 * den ≤ num % den * 2)
    rw [Nat.cast_add, Nat.cast_one]
    constructor <;> linarith

theorem scaled_div (num den : ℕ) (e : ℤ) :
    ((num * Nat.pow 2 (-e).toNat : ℕ) : ℚ) / (den * Nat.pow 2 e.toNat : ℕ) = num / den * 2 ^ (-e) := by
  have hpow := zpow_eq_div 2 (by decide) (-e)
  rw [neg_neg] at hpow
  rw [Nat.cast_mul, Nat.cast_mul, mul_div_mul_comm]
  exact congrArg ((num : ℚ) / den * ·) hpow.symm

theorem lt_fractionCount_iff (num : ℕ) (hden : 0 < den) (e : ℤ) :
    num * Nat.pow 2 (-e).toNat < den * Nat.pow 2 e.toNat * fractionCount ↔ (num : ℚ) / den < 2 ^ (e + 52) := by
  have hscaled : (0 : ℚ) < (den * Nat.pow 2 e.toNat : ℕ) :=
    Nat.cast_pos.mpr (Nat.mul_pos hden (Nat.pow_pos two_pos))
  have hpos : (0 : ℚ) < 2 ^ e := zpow_pos two_pos e
  have hcount : (fractionCount : ℚ) = 2 ^ (52 : ℤ) := by norm_num [fractionCount]
  rw [← @Nat.cast_lt ℚ, Nat.cast_mul _ fractionCount, mul_comm _ (fractionCount : ℚ), ← div_lt_iff₀ hscaled,
    scaled_div, zpow_neg, ← div_eq_mul_inv, div_lt_iff₀ hpos, hcount, add_comm, zpow_add₀ two_ne_zero]

theorem div_lt_two_pow_log (num : ℕ) (hden : 0 < den) :
    (num : ℚ) / den < 2 ^ ((num.log2 : ℤ) - den.log2 + 1) := by
  have hhigh : (num : ℚ) < 2 ^ (num.log2 + 1) := by exact_mod_cast Nat.lt_log2_self (n := num)
  have hlow : (2 : ℚ) ^ den.log2 ≤ den := by exact_mod_cast Nat.log2_self_le hden.ne'
  have hpos : (0 : ℚ) < den := Nat.cast_pos.mpr hden
  rw [div_lt_iff₀ hpos]
  calc (num : ℚ) < 2 ^ (num.log2 + 1) := hhigh
    _ = 2 ^ ((num.log2 : ℤ) - den.log2 + 1) * 2 ^ den.log2 := by
      rw [← zpow_natCast 2 den.log2, ← zpow_add₀ two_ne_zero, ← zpow_natCast]
      congr 1
      push_cast
      ring
    _ ≤ 2 ^ ((num.log2 : ℤ) - den.log2 + 1) * den := mul_le_mul_of_nonneg_left hlow (zpow_pos two_pos _).le

theorem two_pow_log_le_div (hnum : 0 < num) (hden : 0 < den) :
    2 ^ ((num.log2 : ℤ) - den.log2 - 1) ≤ (num : ℚ) / den := by
  have hhigh : (den : ℚ) ≤ 2 ^ (den.log2 + 1) := by exact_mod_cast (Nat.lt_log2_self (n := den)).le
  have hlow : (2 : ℚ) ^ num.log2 ≤ num := by exact_mod_cast Nat.log2_self_le hnum.ne'
  have hpos : (0 : ℚ) < den := Nat.cast_pos.mpr hden
  rw [le_div_iff₀ hpos]
  calc 2 ^ ((num.log2 : ℤ) - den.log2 - 1) * (den : ℚ)
      ≤ 2 ^ ((num.log2 : ℤ) - den.log2 - 1) * 2 ^ (den.log2 + 1) :=
        mul_le_mul_of_nonneg_left hhigh (zpow_pos two_pos _).le
    _ = 2 ^ num.log2 := by
      rw [← zpow_natCast 2 (den.log2 + 1), ← zpow_add₀ two_ne_zero, ← zpow_natCast]
      congr 1
      push_cast
      ring
    _ ≤ num := hlow

/-- The place leaves 53 binary digits above it, or fewer if it is the least one. -/
theorem placeExponent_spec (hnum : 0 < num) (hden : 0 < den) :
    -1074 ≤ placeExponent num den ∧ (num : ℚ) / den < 2 ^ (placeExponent num den + 53) ∧
      (placeExponent num den = -1074 ∨ 2 ^ (placeExponent num den + 52) ≤ (num : ℚ) / den) := by
  have hhigh := div_lt_two_pow_log num hden
  have hlow := two_pow_log_le_div hnum hden
  have hclamp : ∀ e : ℤ, (num : ℚ) / den < 2 ^ (e + 53) → 2 ^ (e + 52) ≤ (num : ℚ) / den →
      -1074 ≤ max e (-1074) ∧ (num : ℚ) / den < 2 ^ (max e (-1074) + 53) ∧
        (max e (-1074) = -1074 ∨ 2 ^ (max e (-1074) + 52) ≤ (num : ℚ) / den) := by
    intro e hlt hle
    refine ⟨le_max_right _ _, hlt.trans_le (zpow_le_zpow_right₀ one_le_two (by omega)), ?_⟩
    rcases max_choice e (-1074) with he | he
    · exact Or.inr (by rwa [he])
    · exact Or.inl he
  obtain ⟨e, he⟩ : ∃ e : ℤ, e = (num.log2 : ℤ) - den.log2 - 52 := ⟨_, rfl⟩
  rw [placeExponent, ← he]
  -- The logarithms leave two exponents to choose from.
  by_cases hlt : (num : ℚ) / den < 2 ^ (e + 52)
  · rw [if_pos ((lt_fractionCount_iff num hden e).mpr hlt)]
    refine hclamp (e - 1) ?_ ?_
    · rwa [show e - 1 + 53 = e + 52 by omega]
    · rwa [show e - 1 + 52 = (num.log2 : ℤ) - den.log2 - 1 by omega]
  · rw [if_neg (mt (lt_fractionCount_iff num hden e).mp hlt)]
    refine hclamp e ?_ (not_lt.mp hlt)
    rwa [show e + 53 = (num.log2 : ℤ) - den.log2 + 1 by omega]

theorem exists_nearest (negative : Bool) (hnum : 0 < num) (hden : 0 < den) :
    ∃ q e, Nearest (num / den) q e ∧ ofRatio negative num den =
      ofMagnitude negative (min infinityMagnitude ((e + 1074).toNat * fractionCount + q)) := by
  obtain ⟨hleast, hlt, hle⟩ := placeExponent_spec hnum hden
  obtain ⟨e, he⟩ : ∃ e, e = placeExponent num den := ⟨_, rfl⟩
  rw [← he] at hleast hlt hle
  refine ⟨_, e, ⟨hleast, ?_, hlt, hle⟩, by rw [ofRatio, if_neg hnum.ne', ← he]⟩
  have hscaled : 0 < den * Nat.pow 2 e.toNat := Nat.mul_pos hden (Nat.pow_pos two_pos)
  have hnear := nearestQuotient_near (num * Nat.pow 2 (-e).toNat) hscaled
  rw [scaled_div] at hnear
  have hpos : (0 : ℚ) < 2 ^ e := zpow_pos two_pos e
  obtain ⟨q, hq⟩ : ∃ q, q = nearestQuotient (num * Nat.pow 2 (-e).toNat) (den * Nat.pow 2 e.toNat) := ⟨_, rfl⟩
  rw [← hq] at hnear ⊢
  calc |q * (2 : ℚ) ^ e - num / den| = |(q - num / den * 2 ^ (-e)) * (2 : ℚ) ^ e| := by
        rw [sub_mul, mul_assoc _ (2 ^ (-e)), ← zpow_add₀ two_ne_zero, neg_add_cancel, zpow_zero, mul_one]
    _ = |q - num / den * (2 : ℚ) ^ (-e)| * 2 ^ e := by rw [abs_mul, abs_of_pos hpos]
    _ ≤ 1 / 2 * 2 ^ e := mul_le_mul_of_nonneg_right hnear hpos.le
    _ = 2 ^ e / 2 := by rw [one_div, mul_comm, div_eq_mul_inv]

end

/-! ### Bits -/

theorem magnitude_ofMagnitude (negative : Bool) {m : ℕ} (hm : m < 9223372036854775808) :
    (ofMagnitude negative m).magnitude = m := by
  cases negative <;> simp [ofMagnitude, magnitude, UInt64.toNat_ofNat'] <;> omega

theorem isNegative_ofMagnitude (negative : Bool) {m : ℕ} (hm : m < 9223372036854775808) :
    (ofMagnitude negative m).isNegative = negative := by
  cases negative <;> simp [ofMagnitude, isNegative, UInt64.toNat_ofNat'] <;> omega

/-- Bits with so many places under an exponent, or with one exponent more if the places are 53 binary digits full. -/
theorem absolute_ofMagnitude (negative : Bool) {q : ℕ} {e : ℤ} (hleast : -1074 ≤ e) (hhigh : q ≤ 2 ^ 53)
    (hlow : e ≠ -1074 → 2 ^ 52 ≤ q) (hfinite : (e + 1074).toNat * fractionCount + q < infinityMagnitude) :
    (ofMagnitude negative ((e + 1074).toNat * fractionCount + q)).absolute = q * 2 ^ e := by
  obtain ⟨f, rfl⟩ : ∃ f : ℕ, e = f - 1074 := ⟨(e + 1074).toNat, by omega⟩
  rw [sub_add_cancel, Int.toNat_natCast, fractionCount] at *
  obtain ⟨m, hm⟩ : ∃ m, m = f * 4503599627370496 + q := ⟨_, rfl⟩
  have hbound : m < 9223372036854775808 := by
    simp only [infinityMagnitude, fractionCount] at hfinite
    omega
  rw [← hm, absolute, significand, exponent, magnitude_ofMagnitude negative hbound, fractionCount]
  by_cases hsmall : q < 4503599627370496
  -- Fewer places than 53 are there only under the least exponent.
  · obtain rfl : f = 0 := by
      by_contra hf
      have := hlow (by omega)
      omega
    rw [if_pos (by omega), show m / 4503599627370496 = 0 by omega, show m = q by omega]
    rfl
  by_cases hfull : q < 9007199254740992
  · rw [if_neg (by omega), show m / 4503599627370496 = f + 1 by omega,
      show m % 4503599627370496 + 4503599627370496 = q by omega]
    congr 2
    omega
  -- The places are full: the next exponent with an empty fraction.
  · rw [if_neg (by omega), show m / 4503599627370496 = f + 2 by omega,
      show m % 4503599627370496 + 4503599627370496 = 4503599627370496 by omega, show q = 9007199254740992 by omega,
      show ((max (f + 2) 1 : ℕ) : ℤ) - 1075 = (f - 1074) + 1 by omega, zpow_add_one₀ two_ne_zero]
    push_cast
    ring

/-! ### Results of rounding -/

section
variable {num den : ℕ} {negative : Bool}

theorem isNegative_ofRatio (negative : Bool) (num den : ℕ) : (ofRatio negative num den).isNegative = negative := by
  rw [ofRatio]
  split
  · exact isNegative_ofMagnitude negative (by decide)
  · exact isNegative_ofMagnitude negative ((min_le_left _ _).trans_lt (by decide))

theorem isFinite_ofMagnitude {m : ℕ} (hm : m ≤ infinityMagnitude) :
    (ofMagnitude negative m).isFinite = true ↔ m < infinityMagnitude := by
  rw [isFinite, magnitude_ofMagnitude negative (hm.trans_lt (by decide)), decide_eq_true_eq]

theorem absolute_ofRatio_zero (negative : Bool) (den : ℕ) : (ofRatio negative 0 den).absolute = 0 := by
  have hmagnitude := magnitude_ofMagnitude negative (m := 0) (by decide)
  rw [ofRatio, if_pos rfl, absolute, significand, hmagnitude, if_pos (by decide), Nat.cast_zero, zero_mul]

theorem exists_places (hnum : 0 < num) (hden : 0 < den) (hfinite : (ofRatio negative num den).isFinite = true) :
    ∃ q e, Nearest (num / den) q e ∧ (ofRatio negative num den).absolute = q * 2 ^ e := by
  obtain ⟨q, e, h, heq⟩ := exists_nearest negative hnum hden
  rw [heq, isFinite_ofMagnitude (min_le_left _ _), min_lt_iff] at hfinite
  have hlt := hfinite.resolve_left (lt_irrefl _)
  refine ⟨q, e, h, ?_⟩
  rw [heq, min_eq_right hlt.le]
  exact absolute_ofMagnitude negative h.least h.places_le_pow h.pow_le_places hlt

/-- What does not exceed the greatest finite number is finite. -/
theorem isFinite_ofRatio (hden : 0 < den) (hr : (num : ℚ) / den ≤ (2 ^ 53 - 1 : ℕ) * 2 ^ (971 : ℤ)) :
    (ofRatio negative num den).isFinite = true := by
  rcases Nat.eq_zero_or_pos num with rfl | hnum
  · rw [ofRatio, if_pos rfl, isFinite_ofMagnitude (Nat.zero_le _)]
    decide
  obtain ⟨q, e, h, heq⟩ := exists_nearest negative hnum hden
  rw [heq, isFinite_ofMagnitude (min_le_left _ _), min_lt_iff]
  right
  have hhigh := h.places_le_pow
  have hleast := h.least
  simp only [fractionCount, infinityMagnitude]
  by_cases he : e = -1074
  · subst he
    omega
  have hexponent : (2 : ℚ) ^ (e + 52) < 2 ^ (1024 : ℤ) := calc
    (2 : ℚ) ^ (e + 52) ≤ (2 ^ 53 - 1 : ℕ) * 2 ^ (971 : ℤ) := (h.le.resolve_left he).trans hr
    _ < 2 ^ (53 : ℤ) * 2 ^ (971 : ℤ) := mul_lt_mul_of_pos_right (by norm_num) (zpow_pos two_pos _)
    _ = 2 ^ (1024 : ℤ) := by rw [← zpow_add₀ two_ne_zero, show (53 : ℤ) + 971 = 1024 by decide]
  rw [zpow_lt_zpow_iff_right₀ one_lt_two] at hexponent
  by_cases htop : e = 971
  · have hq : q ≤ 2 ^ 53 - 1 := h.le_natCast (htop ▸ hr)
    omega
  · omega

theorem isFinite_ofRatio_of_le_pow (hden : 0 < den) (hr : (num : ℚ) / den ≤ 2 ^ (1023 : ℤ)) :
    (ofRatio negative num den).isFinite = true := by
  refine isFinite_ofRatio hden (hr.trans ?_)
  rw [show (1023 : ℤ) = 52 + 971 by decide, zpow_add₀ two_ne_zero]
  exact mul_le_mul_of_nonneg_right (by norm_num) (zpow_pos two_pos _).le

variable {s : ℕ} {c : ℤ}

theorem absolute_ofRatio (hden : 0 < den) (hs : s < 2 ^ 53) (hc : -1074 ≤ c) (hr : (num : ℚ) / den = s * 2 ^ c)
    (hfinite : (ofRatio negative num den).isFinite = true) : (ofRatio negative num den).absolute = num / den := by
  rcases Nat.eq_zero_or_pos num with rfl | hnum
  · rw [absolute_ofRatio_zero, Nat.cast_zero, zero_div]
  · obtain ⟨q, e, h, heq⟩ := exists_places hnum hden hfinite
    rw [heq, h.exact hs hc hr]

theorem num_pos_of_div_pos (h : 0 < (num : ℚ) / den) : 0 < num := by
  refine Nat.pos_of_ne_zero fun hzero => ?_
  rw [hzero, Nat.cast_zero, zero_div] at h
  exact lt_irrefl _ h

theorem pow_le_absolute (hden : 0 < den) (hc : -1074 ≤ c) (hr : 2 ^ c ≤ (num : ℚ) / den)
    (hfinite : (ofRatio negative num den).isFinite = true) : 2 ^ c ≤ (ofRatio negative num den).absolute := by
  obtain ⟨q, e, h, heq⟩ := exists_places (num_pos_of_div_pos ((zpow_pos two_pos c).trans_le hr)) hden hfinite
  rw [heq]
  exact h.pow_le hc hr

theorem absolute_le_pow (hden : 0 < den) (hc : -1074 ≤ c) (hr : (num : ℚ) / den ≤ 2 ^ c)
    (hfinite : (ofRatio negative num den).isFinite = true) : (ofRatio negative num den).absolute ≤ 2 ^ c := by
  rcases Nat.eq_zero_or_pos num with rfl | hnum
  · rw [absolute_ofRatio_zero]
    exact (zpow_pos two_pos c).le
  · obtain ⟨q, e, h, heq⟩ := exists_places hnum hden hfinite
    rw [heq]
    exact h.le_pow hc hr

theorem abs_absolute_sub_le (hden : 0 < den) (hr : 2 ^ (-1022 : ℤ) ≤ (num : ℚ) / den)
    (hfinite : (ofRatio negative num den).isFinite = true) :
    |(ofRatio negative num den).absolute - num / den| ≤ num / den * 2 ^ (-53 : ℤ) := by
  obtain ⟨q, e, h, heq⟩ := exists_places (num_pos_of_div_pos ((zpow_pos two_pos _).trans_le hr)) hden hfinite
  rw [heq]
  exact h.error hr

theorem le_absolute (hden : 0 < den) (hr : 1 ≤ (num : ℚ) / den)
    (hfinite : (ofRatio negative num den).isFinite = true) :
    15 / 16 * ((num : ℚ) / den) ≤ (ofRatio negative num den).absolute := by
  have hnormal : 2 ^ (-1022 : ℤ) ≤ (num : ℚ) / den := (zpow_le_one_of_nonpos₀ one_le_two (by decide)).trans hr
  have herror := (abs_le.mp (abs_absolute_sub_le hden hnormal hfinite)).1
  have hsmall : (2 : ℚ) ^ (-53 : ℤ) ≤ 2 ^ (-4 : ℤ) := zpow_le_zpow_right₀ one_le_two (by decide)
  have hpart : (num : ℚ) / den * 2 ^ (-53 : ℤ) ≤ num / den * 2 ^ (-4 : ℤ) :=
    mul_le_mul_of_nonneg_left hsmall (by linarith)
  norm_num at hpart herror ⊢
  linarith

end

/-! ### Arithmetic -/

variable {x y : Binary64}

theorem denominator_pos (x : Binary64) : 0 < x.denominator := Nat.pow_pos two_pos

theorem numerator_pos (h : x.absolute ≠ 0) : 0 < x.numerator := by
  refine Nat.pos_of_ne_zero fun hzero => h ?_
  rw [absolute_eq_div, hzero, Nat.cast_zero, zero_div]

theorem mul_ratio (x y : Binary64) :
    ((x.numerator * y.numerator : ℕ) : ℚ) / (x.denominator * y.denominator : ℕ) = x.absolute * y.absolute := by
  rw [Nat.cast_mul, Nat.cast_mul, mul_div_mul_comm, absolute_eq_div, absolute_eq_div]

theorem div_ratio (x y : Binary64) :
    ((x.numerator * y.denominator : ℕ) : ℚ) / (x.denominator * y.numerator : ℕ) = x.absolute / y.absolute := by
  rw [Nat.cast_mul, Nat.cast_mul, absolute_eq_div, absolute_eq_div, div_div_div_eq]

theorem toRat_neg (x : Binary64) : x.neg.toRat = -x.toRat := by
  have hlt : x.magnitude < 9223372036854775808 := Nat.mod_lt _ (by decide)
  have habs : x.neg.absolute = x.absolute := by
    rw [absolute, absolute, significand, significand, exponent, exponent, neg, magnitude_ofMagnitude _ hlt]
  rw [toRat_eq, toRat_eq, habs, neg, isNegative_ofMagnitude _ hlt]
  cases x.isNegative <;> simp

theorem isFinite_neg (x : Binary64) : x.neg.isFinite = x.isFinite := by
  have hlt : x.magnitude < 9223372036854775808 := Nat.mod_lt _ (by decide)
  rw [isFinite, isFinite, neg, magnitude_ofMagnitude _ hlt]

/-- The integer of a number is its value. -/
theorem toInt?_eq_some {i : ℤ} : x.toInt? = some i ↔ x.isFinite = true ∧ x.toRat = i := by
  have hden : (x.denominator : ℚ) ≠ 0 := Nat.cast_ne_zero.mpr (denominator_pos x).ne'
  have hvalue : x.denominator ∣ x.numerator →
      x.toRat = ((if x.isNegative then -1 else 1) * (x.numerator / x.denominator : ℕ) : ℤ) := by
    intro hdvd
    rw [toRat_eq, absolute_eq_div, Int.cast_mul, Int.cast_natCast, Nat.cast_div hdvd hden]
    split <;> rfl
  -- A value that is an integer leaves no remainder.
  have hdvd : x.toRat = i → x.denominator ∣ x.numerator := by
    intro h
    rw [toRat_eq, absolute_eq_div] at h
    have hquot : (x.numerator : ℚ) / x.denominator = |(i : ℚ)| := by
      rw [← h, abs_mul, abs_of_nonneg (by positivity : (0 : ℚ) ≤ x.numerator / x.denominator)]
      split <;> simp
    rw [div_eq_iff hden, ← Int.cast_abs, ← Nat.cast_natAbs] at hquot
    exact Dvd.intro_left i.natAbs (by exact_mod_cast hquot.symm)
  rw [toInt?]
  constructor
  · intro h
    split at h
    · next hcond =>
      simp only [Bool.and_eq_true, beq_iff_eq] at hcond
      obtain ⟨hfinite, hmod⟩ := hcond
      rw [← Option.some.inj h]
      exact ⟨hfinite, hvalue (Nat.dvd_of_mod_eq_zero hmod)⟩
    · cases h
  · rintro ⟨hfinite, h⟩
    rw [if_pos (by simp [hfinite, Nat.mod_eq_zero_of_dvd (hdvd h)])]
    have hcast := (hvalue (hdvd h)).symm.trans h
    exact congrArg some (by exact_mod_cast hcast)

/-! ### Natural numbers -/

theorem isNegative_ofNat (n : ℕ) : (ofNat n).isNegative = false := isNegative_ofRatio false n 1

theorem isFinite_ofNat {n : ℕ} (hn : n ≤ (2 ^ 53 - 1) * 2 ^ 971) : (ofNat n).isFinite = true := by
  refine isFinite_ofRatio one_pos ?_
  rw [Nat.cast_one, div_one]
  exact_mod_cast hn

theorem absolute_ofNat {n s c : ℕ} (hs : s < 2 ^ 53) (hn : n = s * 2 ^ c) (hfinite : (ofNat n).isFinite = true) :
    (ofNat n).absolute = n := by
  have hvalue : (n : ℚ) / (1 : ℕ) = s * 2 ^ (c : ℤ) := by
    rw [hn, Nat.cast_one, div_one, zpow_natCast]
    push_cast
    rfl
  have hexact := absolute_ofRatio one_pos hs (by omega) hvalue hfinite
  rwa [Nat.cast_one, div_one] at hexact

theorem le_absolute_ofNat {n : ℕ} (hn : 0 < n) (hfinite : (ofNat n).isFinite = true) :
    15 / 16 * (n : ℚ) ≤ (ofNat n).absolute := by
  have hle := le_absolute one_pos (by rw [Nat.cast_one, div_one]; exact_mod_cast hn) hfinite
  rwa [Nat.cast_one, div_one] at hle

end Lookout.Binary64
