import Lookout.Time.Calendar

/-! Days and their dates. Each year begins where the one before ends, and each month of a year where the one before
    ends, so every day has a date in the calendar, the number of that date is the day, and it lies in the date's year. -/

namespace Lookout.Time

/-! ### Years -/

theorem sum_monthLengths (y : Int) : (monthLengths y).foldr (· + ·) 0 = if isLeapYear y then 366 else 365 := by
  unfold monthLengths
  split <;> rfl

theorem yearStart_succ (y : Int) : yearStart (y + 1) = yearStart y + ((monthLengths y).foldr (· + ·) 0 : Nat) := by
  rw [sum_monthLengths]
  unfold yearStart isLeapYear
  split
  · next h =>
    simp only [Bool.and_eq_true, Bool.or_eq_true, beq_iff_eq, bne_iff_ne] at h
    omega
  · next h =>
    simp only [Bool.and_eq_true, Bool.or_eq_true, beq_iff_eq, bne_iff_ne] at h
    omega

/-- A year holds its first day and all before the first of the next year. The guess by the mean length of a year
    misses by one year at most. -/
theorem yearStart_yearOfDay (n : Int) :
    yearStart (Date.yearOfDay n) ≤ n ∧ n < yearStart (Date.yearOfDay n + 1) := by
  unfold Date.yearOfDay
  generalize hguess : 400 * n / 146097 = guess
  have hlow : 146097 * guess ≤ 400 * n := by omega
  have hhigh : 400 * n < 146097 * guess + 146097 := by omega
  dsimp only
  split
  · next hlt =>
    rw [Int.sub_add_cancel]
    refine ⟨?_, hlt⟩
    unfold yearStart
    omega
  · next hge =>
    split
    · next hle =>
      refine ⟨hle, ?_⟩
      unfold yearStart
      omega
    · next hlt => exact ⟨Int.not_lt.mp hge, Int.not_le.mp hlt⟩

theorem yearStart_mono {a b : Int} (h : a ≤ b) : yearStart a ≤ yearStart b := by
  unfold yearStart
  omega

theorem yearOfDay_lt_iff {n y : Int} : Date.yearOfDay n < y ↔ n < yearStart y := by
  obtain ⟨hlow, hhigh⟩ := yearStart_yearOfDay n
  constructor
  · intro h
    exact Int.lt_of_lt_of_le hhigh (yearStart_mono h)
  · intro h
    refine Int.not_le.mp fun hle => ?_
    have := yearStart_mono hle
    omega

theorem lt_yearOfDay_iff {n y : Int} : y < Date.yearOfDay n ↔ yearStart (y + 1) ≤ n := by
  rw [← Int.not_lt, ← yearOfDay_lt_iff, Int.not_lt, Int.add_one_le_iff]

/-! ### Months -/

namespace Date

/-- A day that lies in the months of these lengths lies in one of them. -/
theorem splitMonths_spec (month : Nat) (lengths : List Nat) (n : Nat) (h : n < lengths.foldr (· + ·) 0) :
    ∃ k, (splitMonths month lengths n).1 = month + k ∧ k < lengths.length ∧
      1 ≤ (splitMonths month lengths n).2 ∧ (splitMonths month lengths n).2 ≤ lengths.getD k 0 ∧
      (lengths.take k).foldr (· + ·) 0 + ((splitMonths month lengths n).2 - 1) = n := by
  induction lengths generalizing month n with
  | nil => exact absurd h (Nat.not_lt_zero n)
  | cons length rest ih =>
    rw [List.foldr_cons] at h
    rw [splitMonths]
    split
    · next hlt => exact ⟨0, rfl, Nat.succ_pos _, Nat.succ_pos n, hlt, Nat.zero_add n⟩
    · next hge =>
      obtain ⟨k, hmonth, hk, hpos, hle, hsum⟩ := ih (month + 1) (n - length) (by omega)
      refine ⟨k + 1, by omega, Nat.succ_lt_succ hk, hpos, hle, ?_⟩
      rw [List.take_succ_cons, List.foldr_cons]
      omega

section
variable (n : Int)

theorem lt_sum_monthLengths :
    (n - yearStart (yearOfDay n)).toNat < (monthLengths (yearOfDay n)).foldr (· + ·) 0 := by
  obtain ⟨hlow, hhigh⟩ := yearStart_yearOfDay n
  rw [yearStart_succ] at hhigh
  omega

/-- A day has a date in the calendar, and the number of the date is the day. -/
theorem ofDay_spec : (ofDay n).isValid = true ∧ (ofDay n).toDay = n := by
  obtain ⟨k, hmonth, hk, hpos, hle, hsum⟩ :=
    splitMonths_spec 1 (monthLengths (yearOfDay n)) _ (lt_sum_monthLengths n)
  obtain ⟨hlow, -⟩ := yearStart_yearOfDay n
  have hdate : ofDay n = ⟨yearOfDay n, 1 + k,
      (splitMonths 1 (monthLengths (yearOfDay n)) (n - yearStart (yearOfDay n)).toNat).2⟩ := by
    rw [← hmonth]
    rfl
  replace hk : k < 12 := hk
  rw [hdate]
  constructor
  · simp only [isValid, monthLength, Nat.add_sub_cancel_left, Bool.and_eq_true, decide_eq_true_eq]
    exact ⟨⟨⟨by omega, by omega⟩, hpos⟩, hle⟩
  · simp only [toDay, daysBeforeMonth, Nat.add_sub_cancel_left]
    omega

theorem isValid_ofDay : (ofDay n).isValid = true := (ofDay_spec n).1

theorem toDay_ofDay : (ofDay n).toDay = n := (ofDay_spec n).2

end

theorem monthLength_le (d : Date) : d.monthLength ≤ 31 := by
  have hall : ∀ length ∈ monthLengths d.year, length ≤ 31 := by
    unfold monthLengths
    split <;> decide
  rw [monthLength, List.getD_eq_getElem?_getD]
  cases hget : (monthLengths d.year)[d.month - 1]? with
  | none => exact Nat.zero_le 31
  | some length => exact hall length (List.mem_of_getElem? hget)

/-- Two digits are enough for the month and for the day of a date in the calendar. -/
theorem lt_hundred_of_isValid {d : Date} (h : d.isValid = true) : d.month < 100 ∧ d.day < 100 := by
  simp only [isValid, Bool.and_eq_true, decide_eq_true_eq] at h
  have hlength := d.monthLength_le
  omega

theorem foldr_take_add_getD_le (lengths : List Nat) (k : Nat) :
    (lengths.take k).foldr (· + ·) 0 + lengths.getD k 0 ≤ lengths.foldr (· + ·) 0 := by
  induction lengths generalizing k with
  | nil => simp
  | cons length rest ih =>
    cases k with
    | zero => simp
    | succ k =>
      have := ih k
      simp only [List.take_succ_cons, List.foldr_cons, List.getD_cons_succ]
      omega

/-- A date in the calendar lies in its year. -/
theorem toDay_between {d : Date} (h : d.isValid = true) :
    yearStart d.year ≤ d.toDay ∧ d.toDay < yearStart (d.year + 1) := by
  simp only [isValid, Bool.and_eq_true, decide_eq_true_eq] at h
  have hsum := foldr_take_add_getD_le (monthLengths d.year) (d.month - 1)
  rw [yearStart_succ, toDay, daysBeforeMonth]
  rw [monthLength] at h
  omega

end Date
end Lookout.Time
