import Lookout.Proofs.Binary64
import Lookout.Proofs.Json.Integers

/-! Numerals whose values are not changed by reading them as numbers. An integer is held as it is while it fits 64 bits;
    any other numeral goes through powers of ten and binary rounding, which leave it alone if its digits are few, and
    take it past the 64-bit integers if it lies far beyond them. -/

namespace Lookout.Json

/-! ### The digits that are computed with -/

section
variable {ds : List Char}

theorem takeFitting_lt_limit {n : ℕ} (hn : n < 18446744073709551616) (ds : List Char) :
    (takeFitting n ds).1 < 18446744073709551616 := by
  induction ds generalizing n with
  | nil => exact hn
  | cons d ds ih =>
    rw [takeFitting]
    split
    · next h => exact ih h
    · exact hn

theorem takeFitting_between (hdigits : ∀ d ∈ ds, d.isDigit = true) (n : ℕ) :
    (takeFitting n ds).1 * 10 ^ (takeFitting n ds).2.length ≤ Nat.ofDigitChars 10 ds n ∧
      Nat.ofDigitChars 10 ds n < ((takeFitting n ds).1 + 1) * 10 ^ (takeFitting n ds).2.length := by
  induction ds generalizing n with
  | nil => simp [takeFitting]
  | cons d ds ih =>
    rw [takeFitting]
    split
    · exact ih (List.forall_mem_cons.mp hdigits).2 _
    · exact Text.ofDigitChars_between hdigits n

/-- Digits are left only behind a number that takes up no more. -/
theorem takeFitting_full (hdigits : ∀ d ∈ ds, d.isDigit = true) {n : ℕ} (h : (takeFitting n ds).2 ≠ []) :
    18446744073709551616 ≤ 10 * (takeFitting n ds).1 + 9 := by
  induction ds generalizing n with
  | nil => exact absurd rfl h
  | cons d ds ih =>
    obtain ⟨hd, hds⟩ := List.forall_mem_cons.mp hdigits
    have hnine := Text.digit_le_nine hd
    rw [takeFitting] at h ⊢
    split at h
    · next hfits =>
      rw [if_pos hfits]
      exact ih hds h
    · next hfull =>
      rw [if_neg hfull]
      omega

/-- With no digit left out, the number is that of all digits. -/
theorem takeFitting_of_nil (hdigits : ∀ d ∈ ds, d.isDigit = true) {n : ℕ} (h : (takeFitting n ds).2 = []) :
    (takeFitting n ds).1 = Nat.ofDigitChars 10 ds n := by
  obtain ⟨hlow, hhigh⟩ := takeFitting_between hdigits n
  rw [h, List.length_nil, pow_zero, mul_one] at hlow hhigh
  exact le_antisymm hlow (Nat.lt_succ_iff.mp hhigh)

theorem length_takeFitting_le (n : ℕ) (ds : List Char) : (takeFitting n ds).2.length ≤ ds.length := by
  induction ds generalizing n with
  | nil => exact le_refl _
  | cons d ds ih =>
    rw [takeFitting]
    split
    · exact (ih _).trans (Nat.le_succ _)
    · exact le_refl _

/-- A number moves up by one place for each digit that it takes up. -/
theorem mul_pow_le_takeFitting (hdigits : ∀ d ∈ ds, d.isDigit = true) (n : ℕ) :
    n * 10 ^ (ds.length - (takeFitting n ds).2.length) ≤ (takeFitting n ds).1 := by
  have hlt : n * 10 ^ (ds.length - (takeFitting n ds).2.length) * 10 ^ (takeFitting n ds).2.length <
      ((takeFitting n ds).1 + 1) * 10 ^ (takeFitting n ds).2.length := by
    rw [mul_assoc, ← pow_add, Nat.sub_add_cancel (length_takeFitting_le n ds)]
    exact (Text.ofDigitChars_between hdigits n).1.trans_lt (takeFitting_between hdigits n).2
  exact Nat.lt_succ_iff.mp (Nat.lt_of_mul_lt_mul_right hlt)

end

namespace Numeral

/-- The number of all digits, and the exponent of the last of them. -/
def coefficient (n : Numeral) : ℕ := Text.ofDecimal (n.whole ++ n.fraction)

/-- The power of ten at the place of the last digit that is written. -/
def place (n : Numeral) : ℤ := n.writtenExponent - n.fraction.length

/-- The value without its sign. -/
def size (n : Numeral) : ℚ := n.coefficient * 10 ^ n.place

/-- The number of the digits that are computed with, and the exponent of the last of them. -/
def computed (n : Numeral) : ℕ × ℤ :=
  let whole := takeFitting 0 n.whole
  let digits := takeFitting whole.1 n.fraction
  (digits.1, whole.2.length - (n.fraction.length - digits.2.length : ℕ) + n.writtenExponent)

variable {n : Numeral}

theorem toRat_eq (n : Numeral) : n.toRat = (if n.negative then -1 else 1) * n.size := by
  have hpow := Binary64.zpow_eq_div 10 (by decide) n.place
  rw [toRat, size, Decimal.toRat, Nat.cast_mul, mul_div_assoc]
  exact congrArg (fun x => (if n.negative then -1 else 1) * ((n.coefficient : ℚ) * x)) hpow.symm

theorem coefficient_eq (n : Numeral) :
    n.coefficient = Nat.ofDigitChars 10 n.fraction (Text.ofDecimal n.whole) := Nat.ofDigitChars_append 0

theorem le_coefficient (n : Numeral) : Text.ofDecimal n.whole ≤ n.coefficient := by
  rw [coefficient_eq, Nat.ofDigitChars_eq_ofDigitChars_zero]
  exact (Nat.le_mul_of_pos_left _ (Nat.pow_pos (by decide))).trans (Nat.le_add_right _ _)

/-- A number that fits 64 bits is computed with all its digits. -/
theorem computed_eq (h : n.coefficient < 18446744073709551616) : n.computed = (n.coefficient, n.place) := by
  have hwhole : takeFitting 0 n.whole = (Text.ofDecimal n.whole, []) :=
    takeFitting_eq 0 (n.le_coefficient.trans_lt h)
  have hall : takeFitting (Text.ofDecimal n.whole) n.fraction = (n.coefficient, []) := by
    rw [coefficient_eq] at h ⊢
    exact takeFitting_eq _ h
  simp only [computed, hwhole, hall, List.length_nil, place, Nat.sub_zero]
  rw [Nat.cast_zero, zero_sub, neg_add_eq_sub]

/-- At most one more digit fits behind a number that has left a digit out. -/
theorem pow_le_ten {w d t : ℕ} (hw : 18446744073709551616 ≤ 10 * w + 9) (hle : w * 10 ^ t ≤ d)
    (hd : d < 18446744073709551616) : 10 ^ t ≤ 10 := by
  have ht : t < 2 := by
    by_contra ht
    have hpow : 10 ^ 2 ≤ 10 ^ t := Nat.pow_le_pow_right (by decide) (Nat.not_lt.mp ht)
    have hbig := (Nat.mul_le_mul_left w hpow).trans hle
    omega
  exact Nat.pow_le_pow_right (by decide) (Nat.lt_succ_iff.mp ht)

/-- What is taken up of the digits in front of the point, and what is left of them. -/
def takenWhole (n : Numeral) : ℕ × List Char := takeFitting 0 n.whole

/-- What is taken up with the digits behind the point, and what is left of these. -/
def taken (n : Numeral) : ℕ × List Char := takeFitting n.takenWhole.1 n.fraction

/-- How many digits are left out. -/
def leftOut (n : Numeral) : ℕ := n.takenWhole.2.length + n.taken.2.length

theorem computed_fst (n : Numeral) : n.computed.1 = n.taken.1 := rfl

theorem computed_snd (n : Numeral) : n.computed.2 = n.leftOut + n.place := by
  have hle : n.taken.2.length ≤ n.fraction.length := length_takeFitting_le _ _
  change n.takenWhole.2.length - ((n.fraction.length - n.taken.2.length : ℕ) : ℤ) + n.writtenExponent = _
  rw [leftOut, place]
  push_cast [hle]
  ring

theorem computed_lt (n : Numeral) : n.computed.1 < 18446744073709551616 :=
  takeFitting_lt_limit (takeFitting_lt_limit (by decide) n.whole) n.fraction

theorem takenWhole_le_taken (h : n.IsDecimal) :
    n.takenWhole.1 * 10 ^ (n.fraction.length - n.taken.2.length) ≤ n.taken.1 := mul_pow_le_takeFitting h.2 _

theorem takenWhole_of_nil (h : n.IsDecimal) (hnil : n.takenWhole.2 = []) : n.takenWhole.1 = Text.ofDecimal n.whole :=
  takeFitting_of_nil h.1 hnil

/-- The digits that are left out change the number that is computed with by less than ten of its last places. -/
theorem coefficient_lt (h : n.IsDecimal) : n.coefficient < (n.computed.1 + 10) * 10 ^ n.leftOut := by
  have htaken := takenWhole_le_taken h
  have hle : n.taken.2.length ≤ n.fraction.length := length_takeFitting_le _ _
  rw [computed_fst, leftOut]
  by_cases hnil : n.takenWhole.2 = []
  · have hbetween : Nat.ofDigitChars 10 n.fraction n.takenWhole.1 < (n.taken.1 + 1) * 10 ^ n.taken.2.length :=
      (takeFitting_between h.2 _).2
    rw [hnil, List.length_nil, zero_add, coefficient_eq, ← takenWhole_of_nil h hnil]
    exact hbetween.trans_le (Nat.mul_le_mul_right _ (by omega))
  -- Behind a whole part that has left digits out, one digit of the fraction fits at most.
  · have hten := pow_le_ten (takeFitting_full h.1 hnil) htaken n.computed_lt
    have hwhole : Text.ofDecimal n.whole < (n.takenWhole.1 + 1) * 10 ^ n.takenWhole.2.length :=
      (takeFitting_between h.1 0).2
    obtain ⟨t, ht⟩ : ∃ t, n.fraction.length = t + n.taken.2.length := ⟨_, (Nat.sub_add_cancel hle).symm⟩
    rw [ht, Nat.add_sub_cancel] at hten htaken
    rw [coefficient_eq]
    calc _ < (Text.ofDecimal n.whole + 1) * 10 ^ n.fraction.length := (Text.ofDigitChars_between h.2 _).2
      _ ≤ (n.takenWhole.1 + 1) * 10 ^ n.takenWhole.2.length * 10 ^ n.fraction.length := Nat.mul_le_mul_right _ hwhole
      _ = (n.takenWhole.1 * 10 ^ t + 10 ^ t) * 10 ^ (n.takenWhole.2.length + n.taken.2.length) := by rw [ht]; ring
      _ ≤ (n.taken.1 + 10) * 10 ^ (n.takenWhole.2.length + n.taken.2.length) := Nat.mul_le_mul_right _ (by omega)

/-- Digits are left out only if the number that is computed with has digits enough. -/
theorem coefficient_eq_or_le (h : n.IsDecimal) :
    n.coefficient = n.computed.1 * 10 ^ n.leftOut ∨ 2 ^ 60 ≤ n.computed.1 := by
  rw [computed_fst]
  by_cases hwhole : n.takenWhole.2 = []
  · by_cases hfraction : n.taken.2 = []
    · left
      rw [leftOut, hwhole, hfraction, coefficient_eq, ← takenWhole_of_nil h hwhole]
      exact (takeFitting_of_nil h.2 hfraction).symm.trans (Nat.mul_one _).symm
    · have hfull : 18446744073709551616 ≤ 10 * n.taken.1 + 9 := takeFitting_full h.2 hfraction
      exact Or.inr (by omega)
  · have hfull : 18446744073709551616 ≤ 10 * n.takenWhole.1 + 9 := takeFitting_full h.1 hwhole
    have hle : n.takenWhole.1 ≤ n.taken.1 :=
      (Nat.le_mul_of_pos_right _ (Nat.pow_pos (by decide))).trans (takenWhole_le_taken h)
    exact Or.inr (by omega)

/-- A number of 2 ^ 64 or more is computed with close to its size. -/
theorem computed_large (h : n.IsDecimal) (hsize : 2 ^ 64 ≤ n.size) :
    ∃ k : ℕ, n.computed.2 = k ∧ (3 * 2 ^ 62 : ℚ) ≤ n.computed.1 * 10 ^ k := by
  have hk := n.computed_snd
  have hlt := n.computed_lt
  have hcoefficient := coefficient_lt h
  have hdigits := coefficient_eq_or_le h
  generalize n.computed.1 = d at hlt hcoefficient hdigits ⊢
  generalize n.leftOut = k at hk hcoefficient hdigits
  have hten : (0 : ℚ) < 10 ^ n.place := zpow_pos (by norm_num) _
  have hpow : (10 : ℚ) ^ n.computed.2 = 10 ^ k * 10 ^ n.place := by
    rw [hk, zpow_add₀ (by norm_num), zpow_natCast]
  have hhigh : (2 : ℚ) ^ 64 < (d + 10) * 10 ^ n.computed.2 := by
    have hcast : (n.coefficient : ℚ) < (d + 10) * 10 ^ k := by exact_mod_cast hcoefficient
    rw [hpow, ← mul_assoc]
    exact hsize.trans_lt (mul_lt_mul_of_pos_right hcast hten)
  have hnonneg : 0 ≤ n.computed.2 := by
    -- With a negative exponent the product of a 64-bit number would stay below 2 ^ 61.
    by_contra hneg
    have hsmall : (10 : ℚ) ^ n.computed.2 ≤ 10 ^ (-1 : ℤ) := zpow_le_zpow_right₀ (by norm_num) (by omega)
    have hcast : (d : ℚ) < 18446744073709551616 := by exact_mod_cast hlt
    have hle : ((d : ℚ) + 10) * 10 ^ n.computed.2 ≤ (d + 10) * 10 ^ (-1 : ℤ) :=
      mul_le_mul_of_nonneg_left hsmall (by positivity)
    norm_num at hle hhigh
    linarith
  obtain ⟨m, hm⟩ := Int.eq_ofNat_of_zero_le hnonneg
  refine ⟨m, hm, ?_⟩
  rw [hm, zpow_natCast] at hpow hhigh
  rcases hdigits with hall | hbig
  · have hcast : (n.coefficient : ℚ) = d * 10 ^ k := by exact_mod_cast hall
    rw [size, hcast, mul_assoc, ← hpow] at hsize
    exact le_trans (by norm_num) hsize
  · have hcast : (30 : ℚ) ≤ d := by exact_mod_cast le_trans (by decide) hbig
    have hle : (d + 10 : ℚ) * 10 ^ m ≤ 4 / 3 * d * 10 ^ m :=
      mul_le_mul_of_nonneg_right (by linarith) (pow_pos (by norm_num) _).le
    linarith

end Numeral

/-! ### Scaling by powers of ten -/

/-- A finite number that is the same integer as `r` if one of them is an integer of 64 bits. -/
structure Keeps (x : Binary64) (r : ℚ) : Prop where
  isFinite : x.isFinite = true
  isNegative : x.isNegative = false
  agrees : ∀ i : ℤ, |i| ≤ 2 ^ 63 → (x.absolute = i ↔ r = i)

section
open Binary64 (ofNat isFinite_ofRatio isNegative_ofRatio isNegative_ofNat isFinite_ofNat absolute_ofNat)

variable {m k : ℕ} {x : Binary64} {r : ℚ}

theorem Keeps.of_eq (hfinite : x.isFinite = true) (hnegative : x.isNegative = false) (h : x.absolute = r) : Keeps x r :=
  ⟨hfinite, hnegative, fun i _ => by rw [h]⟩

/-- Between zero and one there is no integer. -/
theorem ne_intCast {a : ℚ} (hpos : 0 < a) (hlt : a < 1) (i : ℤ) : a ≠ i := by
  rintro rfl
  have hpos : 0 < i := by exact_mod_cast hpos
  have hlt : i < 1 := by exact_mod_cast hlt
  omega

theorem Keeps.of_between (hfinite : x.isFinite = true) (hnegative : x.isNegative = false) (hx : 0 < x.absolute)
    (hx' : x.absolute < 1) (hr : 0 < r) (hr' : r < 1) : Keeps x r :=
  ⟨hfinite, hnegative, fun i _ => ⟨fun h => absurd h (ne_intCast hx hx' i), fun h => absurd h (ne_intCast hr hr' i)⟩⟩

/-- With either sign, the number is the integer that `r` is with the sign. -/
theorem Keeps.toInt?_eq_some (h : Keeps x r) (negative : Bool) {i : ℤ} (hi : |i| ≤ 2 ^ 63) :
    (if negative then x.neg else x).toInt? = some i ↔ (if negative then -1 else 1) * r = i := by
  have hvalue : x.toRat = x.absolute := by
    rw [Binary64.toRat_eq, h.isNegative, if_neg Bool.false_ne_true, one_mul]
  cases negative with
  | false => simpa [Binary64.toInt?_eq_some, h.isFinite, hvalue] using h.agrees i hi
  | true =>
    have hagrees := h.agrees (-i) (by rwa [abs_neg])
    rw [Int.cast_neg] at hagrees
    simpa [Binary64.toInt?_eq_some, Binary64.isFinite_neg, Binary64.toRat_neg, h.isFinite, hvalue, neg_eq_iff_eq_neg]
      using hagrees

theorem Keeps.of_large (hfinite : x.isFinite = true) (hnegative : x.isNegative = false) (hx : 2 ^ 63 < x.absolute)
    (hr : 2 ^ 63 < r) : Keeps x r := by
  refine ⟨hfinite, hnegative, fun i hi => ?_⟩
  have hcast : (i : ℚ) ≤ 2 ^ 63 := by exact_mod_cast (le_abs_self i).trans hi
  exact ⟨fun h => absurd (h ▸ hx) (not_lt.mpr hcast), fun h => absurd (h ▸ hr) (not_lt.mpr hcast)⟩

theorem keeps_zero : Keeps .zero 0 := .of_eq rfl rfl (Binary64.absolute_ofRatio_zero false 1)

theorem mul_zero_left (x : Binary64) : Binary64.zero.mul x = .ofMagnitude (false != x.isNegative) 0 := by
  rw [Binary64.mul, show Binary64.zero.numerator = 0 by decide, Nat.zero_mul, Binary64.ofRatio, if_pos rfl]
  rfl

theorem div_zero_left (x : Binary64) : Binary64.zero.div x = .ofMagnitude (false != x.isNegative) 0 := by
  rw [Binary64.div, show Binary64.zero.numerator = 0 by decide, Nat.zero_mul, Binary64.ofRatio, if_pos rfl]
  rfl

theorem isNegative_powerOfTen (k : ℕ) : (powerOfTen k).isNegative = false := isNegative_ofNat _

theorem isNegative_mul (m k : ℕ) : ((ofNat m).mul (powerOfTen k)).isNegative = false := by
  rw [Binary64.mul, isNegative_ofRatio, isNegative_ofNat, isNegative_powerOfTen]
  rfl

theorem isNegative_div (m k : ℕ) : ((ofNat m).div (powerOfTen k)).isNegative = false := by
  rw [Binary64.div, isNegative_ofRatio, isNegative_ofNat, isNegative_powerOfTen]
  rfl

/-- Zero stays zero at any exponent. -/
theorem scaleByTen?_zero (e : ℤ) : scaleByTen? .zero e = some .zero := by
  cases e with
  | ofNat k =>
    rw [scaleByTen?]
    split
    · rw [mul_zero_left, isNegative_powerOfTen]
      rfl
    · rfl
  | negSucc k =>
    have hfar : ∀ far, divideFar .zero far = .zero := fun far => by
      cases far with
      | zero => rfl
      | succ far => rw [divideFar, if_pos (by decide)]
    rw [scaleByTen?, hfar, div_zero_left, isNegative_powerOfTen]
    rfl

theorem isFinite_powerOfTen (hk : k ≤ 308) : (powerOfTen k).isFinite = true := by
  refine isFinite_ofNat ((Nat.pow_le_pow_right (by decide) hk).trans ?_)
  decide +kernel

theorem absolute_powerOfTen (hk : k ≤ 22) : (powerOfTen k).absolute = 10 ^ k := by
  have hpow : 10 ^ k = 5 ^ k * 2 ^ k := by rw [← Nat.mul_pow]
  have hfive : 5 ^ k < 2 ^ 53 := (Nat.pow_le_pow_right (by decide) hk).trans_lt (by decide)
  have hexact := absolute_ofNat hfive hpow (isFinite_powerOfTen (hk.trans (by decide)))
  rw [Nat.cast_pow, Nat.cast_ofNat] at hexact
  exact hexact

theorem scaleByTen?_natCast (hk : k ≤ 308) {y : Binary64} (h : scaleByTen? x k = some y) :
    y = x.mul (powerOfTen k) ∧ y.isFinite = true := by
  change scaleByTen? x (Int.ofNat k) = some y at h
  rw [scaleByTen?, if_pos hk] at h
  obtain ⟨hfinite, hy⟩ := Option.ite_none_right_eq_some.mp h
  cases hy
  exact ⟨rfl, hfinite⟩

theorem scaleByTen?_neg (hk : k ≤ 308) (hpos : 0 < k) (x : Binary64) :
    scaleByTen? x (-k) = some (x.div (powerOfTen k)) := by
  obtain ⟨j, rfl⟩ : ∃ j, k = j + 1 := ⟨k - 1, by omega⟩
  have hfar : j / 308 = 0 := by omega
  change scaleByTen? x (Int.negSucc j) = _
  rw [scaleByTen?, hfar]
  rfl

theorem lt_of_mul_five_pow (hm : 0 < m) (h : m * 5 ^ k < 2 ^ 53) : k ≤ 22 := by
  by_contra hk
  have hpow : 5 ^ 23 ≤ 5 ^ k := Nat.pow_le_pow_right (by decide) (Nat.not_le.mp hk)
  have hle : 5 ^ k ≤ m * 5 ^ k := Nat.le_mul_of_pos_left _ hm
  exact absurd (hpow.trans (hle.trans h.le)) (by decide)

theorem absolute_ofNat_small (h : m < 2 ^ 53) : (ofNat m).isFinite = true ∧ (ofNat m).absolute = m := by
  have hfinite : (ofNat m).isFinite = true := isFinite_ofNat (h.le.trans (by decide +kernel))
  refine ⟨hfinite, absolute_ofNat h (c := 0) (by rw [pow_zero, mul_one]) hfinite⟩

/-- A product with few digits is found without rounding. -/
theorem keeps_of_natCast (hm : 0 < m) (h : m * 5 ^ k < 2 ^ 53) {y : Binary64}
    (hy : scaleByTen? (ofNat m) k = some y) : Keeps y (m * 10 ^ (k : ℤ)) := by
  have hk := lt_of_mul_five_pow hm h
  obtain ⟨rfl, hfinite⟩ := scaleByTen?_natCast (hk.trans (by decide)) hy
  have hm' : m < 2 ^ 53 := (Nat.le_mul_of_pos_right m (Nat.pow_pos (by decide))).trans_lt h
  have hratio := Binary64.mul_ratio (ofNat m) (powerOfTen k)
  rw [(absolute_ofNat_small hm').2, absolute_powerOfTen hk] at hratio
  have hvalue : (m : ℚ) * 10 ^ k = (m * 5 ^ k : ℕ) * 2 ^ (k : ℤ) := by
    rw [zpow_natCast, Nat.cast_mul, mul_assoc, Nat.cast_pow, ← mul_pow]
    norm_num
  have hden : 0 < (ofNat m).denominator * (powerOfTen k).denominator :=
    Nat.mul_pos (Binary64.denominator_pos _) (Binary64.denominator_pos _)
  have hexact := Binary64.absolute_ofRatio hden h (by omega) (hratio.trans hvalue) hfinite
  refine .of_eq hfinite (isNegative_mul m k) ?_
  rw [zpow_natCast, ← hratio]
  exact hexact

/-- Half a place of the quotient is less than one part in 10 ^ k, and both sides are multiples of that. -/
theorem div_pow_eq_of_abs_sub_le (hm : m < 2 ^ 53) {i : ℤ}
    (herror : |(i : ℚ) - m / 10 ^ k| ≤ m / 10 ^ k * 2 ^ (-53 : ℤ)) : (m : ℚ) / 10 ^ k = i := by
  have hten : (0 : ℚ) < 10 ^ k := pow_pos (by norm_num) k
  have hlt : (m : ℚ) < 2 ^ (53 : ℤ) := by exact_mod_cast hm
  have hparts : |(i : ℚ) * 10 ^ k - m| < 1 := calc
    |(i : ℚ) * 10 ^ k - m| = |(i : ℚ) - m / 10 ^ k| * 10 ^ k := by
      rw [← abs_of_pos hten, ← abs_mul, abs_of_pos hten, sub_mul, div_mul_cancel₀ _ hten.ne']
    _ ≤ m / 10 ^ k * 2 ^ (-53 : ℤ) * 10 ^ k := mul_le_mul_of_nonneg_right herror hten.le
    _ = m * 2 ^ (-53 : ℤ) := by rw [mul_right_comm, div_mul_cancel₀ _ hten.ne']
    _ < 2 ^ (53 : ℤ) * 2 ^ (-53 : ℤ) := mul_lt_mul_of_pos_right hlt (zpow_pos two_pos _)
    _ = 1 := by rw [← zpow_add₀ two_ne_zero, add_neg_cancel, zpow_zero]
  have hzero : i * 10 ^ k - m = 0 := Int.abs_lt_one_iff.mp (by exact_mod_cast hparts)
  rw [div_eq_iff hten.ne']
  exact_mod_cast (sub_eq_zero.mp hzero).symm

/-- A quotient of few digits by a power of ten is an integer exactly if it was rounded to one. -/
theorem keeps_of_div (hpos : 0 < m) (hm : m < 2 ^ 53) (hk : k ≤ 22) :
    Keeps ((ofNat m).div (powerOfTen k)) (m * 10 ^ (-(k : ℤ))) := by
  have hten : (0 : ℚ) < 10 ^ k := pow_pos (by norm_num) k
  have hp := absolute_powerOfTen hk
  have hden := Nat.mul_pos (Binary64.denominator_pos (ofNat m)) (Binary64.numerator_pos (hp ▸ hten.ne'))
  have hratio := Binary64.div_ratio (ofNat m) (powerOfTen k)
  rw [(absolute_ofNat_small hm).2, hp] at hratio
  have hone : (1 : ℚ) ≤ m := by exact_mod_cast hpos
  have hlt : (m : ℚ) < 2 ^ (53 : ℤ) := by exact_mod_cast hm
  have hle : (m : ℚ) / 10 ^ k ≤ m := div_le_self (by linarith) (one_le_pow₀ (by norm_num))
  have hfinite : ((ofNat m).div (powerOfTen k)).isFinite = true := by
    refine Binary64.isFinite_ofRatio_of_le_pow hden ?_
    rw [hratio]
    exact hle.trans (hlt.le.trans (zpow_le_zpow_right₀ one_le_two (by decide)))
  refine ⟨hfinite, isNegative_div m k, fun i _ => ?_⟩
  rw [zpow_neg, zpow_natCast, ← div_eq_mul_inv]
  constructor
  · intro h
    have hnormal : (2 : ℚ) ^ (-1022 : ℤ) ≤ m / 10 ^ k := by
      have hpow : (10 : ℚ) ^ k ≤ 10 ^ 22 := pow_le_pow_right₀ (by norm_num) hk
      rw [le_div_iff₀ hten]
      calc (2 : ℚ) ^ (-1022 : ℤ) * 10 ^ k ≤ 2 ^ (-80 : ℤ) * 10 ^ 22 :=
            mul_le_mul (zpow_le_zpow_right₀ one_le_two (by decide)) hpow hten.le (zpow_pos two_pos _).le
        _ ≤ 1 := by norm_num
        _ ≤ m := hone
    have herror := Binary64.abs_absolute_sub_le hden (by rwa [hratio]) hfinite
    rw [← Binary64.div.eq_1, h, hratio] at herror
    exact div_pow_eq_of_abs_sub_le hm herror
  · intro h
    -- An integer quotient has few digits itself, so it needs no rounding.
    have hnonneg : 0 ≤ i := by
      have hcast : (0 : ℚ) ≤ i := h ▸ by positivity
      exact_mod_cast hcast
    lift i to ℕ using hnonneg
    have hn : i < 2 ^ 53 := by
      have hcast : (i : ℚ) < 2 ^ (53 : ℤ) := by
        rw [← Int.cast_natCast, ← h]
        exact hle.trans_lt hlt
      exact_mod_cast hcast
    have hvalue : (((ofNat m).numerator * (powerOfTen k).denominator : ℕ) : ℚ) /
        ((ofNat m).denominator * (powerOfTen k).numerator : ℕ) = i * 2 ^ (0 : ℤ) := by
      rw [hratio, h, zpow_zero, mul_one, Int.cast_natCast]
    rw [← h, ← hratio]
    exact Binary64.absolute_ofRatio hden hn (by decide) hvalue hfinite

theorem powerOfTen_between (hlow : 22 < k) (hhigh : k ≤ 308) :
    (2 : ℚ) ^ (76 : ℤ) ≤ (powerOfTen k).absolute ∧ (powerOfTen k).absolute ≤ 2 ^ (1024 : ℤ) := by
  have hfinite := isFinite_powerOfTen hhigh
  constructor
  · refine Binary64.pow_le_absolute one_pos (by decide) ?_ hfinite
    rw [Nat.cast_one, div_one, Nat.pow_eq, Nat.cast_pow]
    calc (2 : ℚ) ^ (76 : ℤ) ≤ 10 ^ 23 := by norm_num
      _ ≤ 10 ^ k := pow_le_pow_right₀ (by norm_num) hlow
  · refine Binary64.absolute_le_pow one_pos (by decide) ?_ hfinite
    have hpow : 10 ^ k ≤ 2 ^ 1024 := (Nat.pow_le_pow_right (by decide) hhigh).trans (by decide +kernel)
    rw [Nat.cast_one, div_one]
    exact_mod_cast hpow

/-- A number that is much less than one, but not too small for binary64, is rounded to no integer. -/
theorem keeps_of_div_far (hpos : 0 < m) (hm : m < 2 ^ 53) (hfar : 22 < k) (hk : k ≤ 308) :
    Keeps ((ofNat m).div (powerOfTen k)) (m * 10 ^ (-(k : ℤ))) := by
  have hten : (0 : ℚ) < 10 ^ k := pow_pos (by norm_num) k
  have hone : (1 : ℚ) ≤ m := by exact_mod_cast hpos
  have hlt : (m : ℚ) < 2 ^ (53 : ℤ) := by exact_mod_cast hm
  obtain ⟨hplow, hphigh⟩ := powerOfTen_between hfar hk
  have hppos : 0 < (powerOfTen k).absolute := (zpow_pos two_pos _).trans_le hplow
  have hden := Nat.mul_pos (Binary64.denominator_pos (ofNat m)) (Binary64.numerator_pos hppos.ne')
  have hratio := Binary64.div_ratio (ofNat m) (powerOfTen k)
  rw [(absolute_ofNat_small hm).2] at hratio
  -- The quotient lies between 2 ^ -1024 and 2 ^ -23, so it is rounded to a number between them.
  have hsmall : (m : ℚ) / (powerOfTen k).absolute ≤ 2 ^ (-23 : ℤ) := by
    rw [div_le_iff₀ hppos]
    calc (m : ℚ) ≤ 2 ^ (-23 : ℤ) * 2 ^ (76 : ℤ) := by
          rw [← zpow_add₀ two_ne_zero]
          exact hlt.le
      _ ≤ 2 ^ (-23 : ℤ) * (powerOfTen k).absolute := mul_le_mul_of_nonneg_left hplow (zpow_pos two_pos _).le
  have hlarge : (2 : ℚ) ^ (-1024 : ℤ) ≤ m / (powerOfTen k).absolute := by
    rw [le_div_iff₀ hppos]
    calc (2 : ℚ) ^ (-1024 : ℤ) * (powerOfTen k).absolute ≤ 2 ^ (-1024 : ℤ) * 2 ^ (1024 : ℤ) :=
          mul_le_mul_of_nonneg_left hphigh (zpow_pos two_pos _).le
      _ = 1 := by rw [← zpow_add₀ two_ne_zero, neg_add_cancel, zpow_zero]
      _ ≤ m := hone
  have hfinite : ((ofNat m).div (powerOfTen k)).isFinite = true := by
    refine Binary64.isFinite_ofRatio_of_le_pow hden ?_
    rw [hratio]
    exact hsmall.trans (zpow_le_zpow_right₀ one_le_two (by decide))
  have hlow := Binary64.pow_le_absolute hden (show -1074 ≤ -1024 by decide) (by rwa [hratio]) hfinite
  have hhigh := Binary64.absolute_le_pow hden (show -1074 ≤ -23 by decide) (by rwa [hratio]) hfinite
  rw [← Binary64.div.eq_1] at hlow hhigh
  refine .of_between hfinite (isNegative_div m k) ((zpow_pos two_pos _).trans_le hlow) (hhigh.trans_lt ?_) ?_ ?_
  · exact zpow_lt_one_of_neg₀ one_lt_two (by decide)
  · positivity
  · rw [zpow_neg, zpow_natCast, ← div_eq_mul_inv, div_lt_one hten]
    calc (m : ℚ) < 2 ^ (53 : ℤ) := hlt
      _ ≤ 10 ^ 23 := by norm_num
      _ ≤ 10 ^ k := pow_le_pow_right₀ (by norm_num) hfar

/-- What lies beyond the integers of 64 bits by half of them or more is scaled beyond them. -/
theorem lt_scaled (hm : m < 18446744073709551616) (h : (3 * 2 ^ 62 : ℚ) ≤ m * 10 ^ k) {y : Binary64}
    (hy : scaleByTen? (ofNat m) k = some y) :
    y.isFinite = true ∧ y.isNegative = false ∧ 2 ^ 63 < y.absolute := by
  have hpos : 0 < m := by
    refine Nat.pos_of_ne_zero fun hzero => ?_
    rw [hzero] at h
    norm_num at h
  have hfinite : (ofNat m).isFinite = true := isFinite_ofNat (hm.le.trans (by decide +kernel))
  have hdigits := Binary64.le_absolute_ofNat hpos hfinite
  have hone : (1 : ℚ) ≤ m := by exact_mod_cast hpos
  by_cases hk : k ≤ 308
  · obtain ⟨rfl, hy⟩ := scaleByTen?_natCast hk hy
    have hpower := Binary64.le_absolute_ofNat (Nat.pow_pos (by decide)) (isFinite_powerOfTen hk)
    rw [Nat.cast_pow, Nat.cast_ofNat] at hpower
    have hratio := Binary64.mul_ratio (ofNat m) (powerOfTen k)
    have hfactors : 15 / 16 * (m : ℚ) * (15 / 16 * 10 ^ k) ≤ (ofNat m).absolute * (powerOfTen k).absolute :=
      mul_le_mul hdigits hpower (by positivity) (Binary64.absolute_nonneg _)
    have hden := Nat.mul_pos (Binary64.denominator_pos (ofNat m)) (Binary64.denominator_pos (powerOfTen k))
    have hproduct := Binary64.le_absolute hden (by rw [hratio]; linarith) hy
    rw [hratio, ← Binary64.mul.eq_1] at hproduct
    exact ⟨hy, isNegative_mul m k, by linarith⟩
  · change scaleByTen? (ofNat m) (Int.ofNat k) = some y at hy
    rw [scaleByTen?, if_neg hk] at hy
    obtain ⟨hmagnitude, -⟩ := Option.ite_none_right_eq_some.mp hy
    -- Beyond 10 ^ 308 only zero is scaled, and the number is not zero.
    have hzero : (ofNat m).absolute = 0 := by
      rw [Binary64.absolute, Binary64.significand, hmagnitude, if_pos (by decide), Nat.cast_zero, zero_mul]
    linarith

end

/-! ### Numerals that keep their values -/

namespace Numeral

/-- The numeral is written with neither a fraction nor an exponent. -/
def IsInteger (n : Numeral) : Prop := n.fraction = [] ∧ n.exponent = none

/-- Numerals that no rounding moves to another 64-bit integer, or away from one: integers but those right below the
    least one; decimals that are few digits times a power of ten; and what is 2 ^ 64 or more without its sign. -/
inductive Faithful (n : Numeral) : Prop where
  | zero (h : n.coefficient = 0)
  | integer (h : n.IsInteger) (hgap : n.toRat < -(2 ^ 63 + 1024) ∨ -2 ^ 63 ≤ n.toRat)
  | short (h : n.coefficient * 5 ^ n.place.toNat < 2 ^ 53) (hplace : -308 ≤ n.place)
  | large (h : 2 ^ 64 ≤ n.size) (hexponent : -exponentLimit ≤ n.writtenExponent)

variable {n : Numeral} {y : Binary64}

theorem size_of_zero (h : n.coefficient = 0) : n.size = 0 := by
  rw [size, h, Nat.cast_zero, zero_mul]

theorem size_of_integer (h : n.IsInteger) : n.size = n.coefficient := by
  have hplace : n.place = 0 := by
    rw [place, writtenExponent, h.1, h.2]
    rfl
  rw [size, hplace, zpow_zero, mul_one]

/-- A float is what scaling gives, with the sign of the numeral, unless the exponent is too small to be computed with. -/
theorem exists_scaled (hy : n.float? = some y) :
    ∃ x, y = (if n.negative then x.neg else x) ∧
      (scaleByTen? (.ofNat n.computed.1) n.computed.2 = some x ∨ n.writtenExponent < -exponentLimit ∧ x = .zero) := by
  have hfloat : n.float? = (if exponentLimit < n.writtenExponent then
      if n.computed.1 = 0 then some Binary64.zero else none
    else if n.writtenExponent < -exponentLimit then some Binary64.zero
    else scaleByTen? (.ofNat n.computed.1) n.computed.2).map fun x => if n.negative then x.neg else x := rfl
  obtain ⟨x, hx, hsign⟩ := Option.map_eq_some_iff.mp (hfloat.symm.trans hy)
  refine ⟨x, hsign.symm, ?_⟩
  split at hx
  · obtain ⟨hzero, hx⟩ := Option.ite_none_right_eq_some.mp hx
    rw [hzero, ← hx]
    exact Or.inl (scaleByTen?_zero _)
  · split at hx
    · next hlow => exact Or.inr ⟨hlow, (Option.some.inj hx).symm⟩
    · exact Or.inl hx

theorem keeps_of_zero (h : n.coefficient = 0) (hy : n.float? = some y) :
    ∃ x, y = (if n.negative then x.neg else x) ∧ Keeps x n.size := by
  obtain ⟨x, hy, hx⟩ := exists_scaled hy
  refine ⟨x, hy, ?_⟩
  have hzero : x = .zero := by
    rcases hx with hx | ⟨-, hx⟩
    · rw [computed_eq (by omega), h] at hx
      exact (Option.some.inj ((scaleByTen?_zero _).symm.trans hx)).symm
    · exact hx
  rw [hzero, size_of_zero h]
  exact keeps_zero

theorem keeps_of_short (h : n.coefficient * 5 ^ n.place.toNat < 2 ^ 53) (hplace : -308 ≤ n.place)
    (hy : n.float? = some y) : ∃ x, y = (if n.negative then x.neg else x) ∧ Keeps x n.size := by
  rcases Nat.eq_zero_or_pos n.coefficient with hzero | hpos
  · exact keeps_of_zero hzero hy
  obtain ⟨x, hy, hx⟩ := exists_scaled hy
  refine ⟨x, hy, ?_⟩
  have hsmall : n.coefficient < 2 ^ 53 := (Nat.le_mul_of_pos_right _ (Nat.pow_pos (by decide))).trans_lt h
  rw [computed_eq (hsmall.trans (by decide))] at hx
  have hexponent : ¬ n.writtenExponent < -exponentLimit := by
    simp only [place, exponentLimit] at hplace ⊢
    omega
  replace hx := hx.resolve_right fun hlow => hexponent hlow.1
  rw [size]
  generalize n.place = e at h hplace hx ⊢
  rcases Int.lt_or_le e 0 with hneg | hnonneg
  · obtain ⟨k, rfl⟩ : ∃ k : ℕ, e = -k := ⟨(-e).toNat, by omega⟩
    rw [scaleByTen?_neg (by omega) (by omega)] at hx
    cases hx
    rcases Nat.lt_or_ge 22 k with hfar | hnear
    · exact keeps_of_div_far hpos hsmall hfar (by omega)
    · exact keeps_of_div hpos hsmall hnear
  · lift e to ℕ using hnonneg
    exact keeps_of_natCast hpos h hx

theorem keeps_of_large (hdecimal : n.IsDecimal) (h : 2 ^ 64 ≤ n.size) (hexponent : -exponentLimit ≤ n.writtenExponent)
    (hy : n.float? = some y) : ∃ x, y = (if n.negative then x.neg else x) ∧ Keeps x n.size := by
  obtain ⟨x, hy, hx⟩ := exists_scaled hy
  refine ⟨x, hy, ?_⟩
  replace hx := hx.resolve_right fun hlow => (Int.not_lt.mpr hexponent) hlow.1
  obtain ⟨k, hk, hlarge⟩ := computed_large hdecimal h
  rw [hk] at hx
  obtain ⟨hfinite, hnegative, hbig⟩ := lt_scaled n.computed_lt hlarge hx
  exact .of_large hfinite hnegative hbig (lt_of_lt_of_le (by norm_num) h)

theorem number?_integer (h : n.IsInteger) (hsmall : n.coefficient < 18446744073709551616) :
    n.number? = some (if !n.negative then Number.natural (UInt64.ofNat n.coefficient)
      else if n.coefficient = 0 || 9223372036854775808 < n.coefficient then
        Number.float (Binary64.ofNat n.coefficient).neg
      else Number.negative (Int64.ofInt (-(n.coefficient : ℤ)))) := by
  have hwhole : n.coefficient = Nat.ofDigitChars 10 n.whole 0 := by
    rw [coefficient, h.1, List.append_nil, Text.ofDecimal]
  rw [hwhole] at hsmall ⊢
  rw [number?, takeFitting_eq 0 hsmall, h.1, h.2]
  simp only [List.isEmpty_nil, Option.isNone_none, Bool.and_self, if_true]
  split
  · rfl
  · split <;> rfl

theorem number?_float (h : n.IsDecimal) (hfits : ¬ (n.IsInteger ∧ n.coefficient < 18446744073709551616)) :
    n.number? = n.float?.map Number.float := by
  have hcond : ((takeFitting 0 n.whole).2.isEmpty && n.fraction.isEmpty && n.exponent.isNone) = false := by
    rw [Bool.eq_false_iff]
    intro hcond
    simp only [Bool.and_eq_true, List.isEmpty_iff, Option.isNone_iff_eq_none] at hcond
    obtain ⟨⟨hleft, hfraction⟩, hexponent⟩ := hcond
    refine hfits ⟨⟨hfraction, hexponent⟩, ?_⟩
    rw [coefficient, hfraction, List.append_nil, ← takenWhole_of_nil h hleft]
    exact takeFitting_lt_limit (by decide) n.whole
  exact if_neg (by rw [hcond]; exact Bool.false_ne_true)

theorem exists_keeps (hdecimal : n.IsDecimal) (h : n.Faithful)
    (hfits : ¬ (n.IsInteger ∧ n.coefficient < 18446744073709551616)) (hy : n.float? = some y) :
    ∃ x, y = (if n.negative then x.neg else x) ∧ Keeps x n.size := by
  cases h with
  | zero hzero => exact keeps_of_zero hzero hy
  | short hshort hplace => exact keeps_of_short hshort hplace hy
  | large hlarge hexponent => exact keeps_of_large hdecimal hlarge hexponent hy
  | integer hinteger =>
    have hlarge : 2 ^ 64 ≤ n.size := by
      have hcoefficient : 2 ^ 64 ≤ n.coefficient := Nat.not_lt.mp fun hlt => hfits ⟨hinteger, hlt⟩
      rw [size_of_integer hinteger]
      exact_mod_cast hcoefficient
    have hexponent : -exponentLimit ≤ n.writtenExponent := by
      rw [writtenExponent, hinteger.2]
      decide
    exact keeps_of_large hdecimal hlarge hexponent hy

/-- A negative integer that keeps its value does not lie right below the least integer of 64 bits. -/
theorem Faithful.lt_coefficient (h : n.Faithful) (hinteger : n.IsInteger) (hnegative : n.negative = true)
    (hlow : 2 ^ 63 < n.coefficient) : 2 ^ 63 + 1024 < n.coefficient := by
  cases h with
  | zero hzero => omega
  | short hshort _ =>
    have hle : n.coefficient ≤ n.coefficient * 5 ^ n.place.toNat := Nat.le_mul_of_pos_right _ (Nat.pow_pos (by decide))
    omega
  | large hlarge _ =>
    rw [size_of_integer hinteger] at hlarge
    have hcast : 2 ^ 64 ≤ n.coefficient := by exact_mod_cast hlarge
    omega
  | integer _ hgap =>
    rw [toRat_eq, size_of_integer hinteger, hnegative, if_pos rfl, neg_one_mul] at hgap
    rcases hgap with hgap | hgap
    · have hcast : (2 ^ 63 + 1024 : ℚ) < n.coefficient := neg_lt_neg_iff.mp hgap
      exact_mod_cast hcast
    · have hcast : (n.coefficient : ℚ) ≤ 2 ^ 63 := neg_le_neg_iff.mp hgap
      exact absurd hlow (Nat.not_lt.mpr (by exact_mod_cast hcast))

end Numeral

/-- A number that is more than half a place above 2 ^ 63 is not rounded down to it. -/
theorem keeps_ofNat {m : ℕ} (hlow : 2 ^ 63 + 1024 < m) (hhigh : m < 18446744073709551616) :
    Keeps (Binary64.ofNat m) m := by
  have hfinite : (Binary64.ofNat m).isFinite = true := Binary64.isFinite_ofNat (hhigh.le.trans (by decide +kernel))
  have hcast : (2 ^ 63 + 1025 : ℚ) ≤ m := by exact_mod_cast hlow
  have hnormal : (2 : ℚ) ^ (-1022 : ℤ) ≤ m / (1 : ℕ) := by
    have hone : (2 : ℚ) ^ (-1022 : ℤ) ≤ 1 := zpow_le_one_of_nonpos₀ one_le_two (by decide)
    rw [Nat.cast_one, div_one]
    linarith
  have herror := (abs_le.mp (Binary64.abs_absolute_sub_le one_pos hnormal hfinite)).1
  rw [Nat.cast_one, div_one, ← Binary64.ofNat.eq_1] at herror
  refine .of_large hfinite (Binary64.isNegative_ofNat m) ?_ ?_
  · norm_num at herror ⊢
    linarith
  · linarith

end Lookout.Json
