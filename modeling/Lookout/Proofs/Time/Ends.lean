import Lookout.Proofs.Text.Integers
import Lookout.Proofs.Time.Rfc3339

/-! The ends of the calendar. The year of a timestamp is checked as it is written, but the text of an instant is in UTC.
    So what was read has a text unless its offset carries it over an end: behind the last day if that is written behind
    UTC, and before the first day if that is written ahead of it. -/

namespace Lookout.Time

/-! ### Instants -/

namespace Instant

/-- The number of the day, in UTC. -/
def day (t : Instant) : Int := t.seconds / secondsPerDay + epochDay

theorem date_eq (t : Instant) : t.date = .ofDay t.day := rfl

theorem year_lt_zero_iff {t : Instant} : t.date.year < 0 ↔ t.day < 0 :=
  yearOfDay_lt_iff.trans (by rw [show yearStart 0 = 0 by decide]; rfl)

theorem lt_year_iff {t : Instant} : 9999 < t.date.year ↔ 3652425 ≤ t.day :=
  lt_yearOfDay_iff.trans (by rw [show yearStart (9999 + 1) = 3652425 by decide]; rfl)

theorem date_eq_iff {t : Instant} {d : Date} (h : Date.ofDay d.toDay = d) : t.date = d ↔ t.day = d.toDay := by
  constructor
  · rintro rfl
    exact (Date.toDay_ofDay t.day).symm
  · intro he
    rw [date_eq, he, h]

end Instant

namespace Timestamp

/-- The instant at which a clock in UTC shows what a clock at the offset shows now. -/
def shown (t : Timestamp) : Instant := ⟨t.instant.nanos + t.offset * Instant.nanosPerSecond⟩

/-- The last day of the calendar is shown, and in UTC it is over. -/
def PassesEnd (t : Timestamp) : Prop := t.shown.date = ⟨9999, 12, 31⟩ ∧ 86400 ≤ t.shown.secondOfDay - t.offset

/-- The first day of the calendar is shown, and in UTC it has not begun. -/
def PassesStart (t : Timestamp) : Prop := t.shown.date = ⟨0, 1, 1⟩ ∧ t.shown.secondOfDay < t.offset

instance (t : Timestamp) : Decidable t.PassesEnd := by
  unfold PassesEnd
  infer_instance

instance (t : Timestamp) : Decidable t.PassesStart := by
  unfold PassesStart
  infer_instance

/-- The timestamp was read from a text. -/
def Accepted (t : Timestamp) : Prop := ∃ raw, Rfc3339.parse? raw = some t

end Timestamp

/-! ### What a text gives -/

namespace Rfc3339

theorem unsignedOffset?_lt {s r : List Char} {n : Nat} (h : unsignedOffset? s = some (n, r)) : n < 86400 := by
  simp only [unsignedOffset?, Option.bind_eq_bind, Option.bind_eq_some_iff] at h
  obtain ⟨⟨hours, r₁⟩, -, r₂, -, ⟨minutes, r₃⟩, -, h⟩ := h
  obtain ⟨⟨hhours, hminutes⟩, he⟩ := Option.ite_none_right_eq_some.mp h
  obtain ⟨rfl, -⟩ := Prod.mk.inj (Option.some.inj he)
  omega

theorem offset?_between {s r : List Char} {n : Int} (h : offset? s = some (n, r)) : -86400 < n ∧ n < 86400 := by
  unfold offset? at h
  split at h
  · cases h
    omega
  · cases h
    omega
  · obtain ⟨⟨k, r'⟩, hk, he⟩ := Option.map_eq_some_iff.mp h
    have := unsignedOffset?_lt hk
    cases he
    omega
  · obtain ⟨⟨k, r'⟩, hk, he⟩ := Option.map_eq_some_iff.mp h
    have := unsignedOffset?_lt hk
    cases he
    omega
  · cases h

theorem number?_lt {n v : Nat} {s r : List Char} (h : number? n s = some (v, r)) : v < 10 ^ n := by
  obtain ⟨⟨hlength, hdigits⟩, he⟩ := Option.ite_none_right_eq_some.mp h
  obtain ⟨rfl, -⟩ := Prod.mk.inj (Option.some.inj he)
  have := Text.ofDecimal_lt (List.all_eq_true.mp hdigits)
  rwa [hlength] at this

theorem date?_inv {s r : List Char} {d : Date} (h : date? s = some (d, r)) :
    d.isValid = true ∧ 0 ≤ d.year ∧ d.year ≤ 9999 := by
  simp only [date?, Option.bind_eq_bind, Option.bind_eq_some_iff] at h
  obtain ⟨⟨year, r₁⟩, hyear, r₂, -, ⟨month, r₃⟩, -, r₄, -, ⟨day, r₅⟩, -, h⟩ := h
  obtain ⟨hvalid, he⟩ := Option.ite_none_right_eq_some.mp h
  obtain ⟨rfl, -⟩ := Prod.mk.inj (Option.some.inj he)
  have := number?_lt hyear
  exact ⟨hvalid, Int.natCast_nonneg year, by simp only; omega⟩

theorem timeOfDay?_lt {s r : List Char} {second : Nat} {leap : Bool} (h : timeOfDay? s = some (second, leap, r)) :
    second < 86400 := by
  simp only [timeOfDay?, Option.bind_eq_bind, Option.bind_eq_some_iff] at h
  obtain ⟨⟨hour, r₁⟩, -, r₂, -, ⟨minute, r₃⟩, -, r₄, -, ⟨sec, r₅⟩, -, h⟩ := h
  obtain ⟨⟨hhour, hminute, -⟩, he⟩ := Option.ite_none_right_eq_some.mp h
  obtain ⟨rfl, -⟩ := Prod.mk.inj (Option.some.inj he)
  omega

theorem nanosOfFraction_lt {ds : List Char} (hdigits : ∀ d ∈ ds, d.isDigit = true) :
    nanosOfFraction ds < 1000000000 := by
  have hlength : (ds.take 9).length ≤ 9 := List.length_take_le 9 ds
  have hkept : Text.ofDecimal (ds.take 9) < 10 ^ (ds.take 9).length :=
    Text.ofDecimal_lt fun d hd => hdigits d (List.mem_of_mem_take hd)
  calc nanosOfFraction ds
      < 10 ^ (ds.take 9).length * 10 ^ (9 - (ds.take 9).length) :=
        Nat.mul_lt_mul_of_pos_right hkept (Nat.pow_pos (by decide))
    _ = 1000000000 := by rw [← Nat.pow_add, Nat.add_sub_cancel' hlength]

theorem fraction?_lt {s r : List Char} {nanos : Nat} (h : fraction? s = some (nanos, r)) : nanos < 1000000000 := by
  unfold fraction? at h
  split at h
  · next r' =>
    split at h
    · cases h
    · obtain ⟨rfl, -⟩ := Prod.mk.inj (Option.some.inj h)
      exact nanosOfFraction_lt fun d hd => List.all_eq_true.mp List.all_takeWhile d hd
  · obtain ⟨rfl, -⟩ := Prod.mk.inj (Option.some.inj h)
    decide

/-- What is read is a second of a day that has a date, and nanoseconds behind it, at an offset of less than a day. -/
theorem exists_of_parse? {raw : List Char} {t : Timestamp} (h : parse? raw = some t) :
    ∃ (d : Date) (second nanos : Nat), (d.isValid = true ∧ 0 ≤ d.year ∧ d.year ≤ 9999) ∧ second < 86400 ∧
      nanos < 1000000000 ∧ (-86400 < t.offset ∧ t.offset < 86400) ∧
      t.instant =
        .ofSeconds ((d.toDay - Instant.epochDay) * Instant.secondsPerDay + second - t.offset) nanos := by
  obtain ⟨⟨d, r₁⟩, hd, h⟩ := Option.bind_eq_some_iff.mp h
  cases r₁ with
  | nil => cases h
  | cons separator r =>
    dsimp only at h
    split at h
    · cases h
    obtain ⟨⟨second, leap, r₂⟩, hsecond, h⟩ := Option.bind_eq_some_iff.mp h
    obtain ⟨⟨nanos, r₃⟩, hnanos, h⟩ := Option.bind_eq_some_iff.mp h
    obtain ⟨⟨offset, r₄⟩, hoffset, h⟩ := Option.bind_eq_some_iff.mp h
    split at h
    · cases h
    obtain rfl := Option.some.inj (Option.ite_none_left_eq_some.mp h).2
    -- A leap second is the last nanosecond of the second before it.
    refine ⟨d, second, if leap then 999999999 else nanos, date?_inv hd, timeOfDay?_lt hsecond, ?_,
      offset?_between hoffset, ?_⟩
    · have := fraction?_lt hnanos
      split <;> omega
    · cases leap <;> rfl

/-! ### What is written -/

variable {i : Instant}

theorem text_eq_beyondCalendar : text i = .error .beyondCalendar ↔ 9999 < i.date.year := by
  rw [text, check]
  split
  · simp [Except.map]
    omega
  · split <;> simp [Except.map, *]

theorem text_eq_beforeCalendar : text i = .error .beforeCalendar ↔ i.date.year < 0 := by
  rw [text, check]
  split
  · simp [Except.map, *]
  · split <;> simp [Except.map, *]

theorem text_eq_ok : (∃ s, text i = .ok s) ↔ i.InCalendar := by
  rw [Instant.InCalendar, ← Int.not_lt, ← Int.not_lt, ← text_eq_beforeCalendar, ← text_eq_beyondCalendar]
  constructor
  · rintro ⟨s, hs⟩
    simp [hs]
  · rintro ⟨hbefore, hbeyond⟩
    cases h : text i with
    | ok s => exact ⟨s, rfl⟩
    | error e => cases e <;> contradiction

end Rfc3339

/-! ### Over the ends -/

namespace Timestamp

variable {t : Timestamp}

/-- The number of the day that is shown, in the calendar, and the second that is shown. -/
theorem Accepted.day_shown (h : t.Accepted) :
    (0 ≤ t.shown.day ∧ t.shown.day ≤ 3652424) ∧ (-86400 < t.offset ∧ t.offset < 86400) ∧
      t.instant.day = t.shown.day + (t.shown.secondOfDay - t.offset) / 86400 := by
  obtain ⟨raw, hraw⟩ := h
  obtain ⟨d, second, nanos, ⟨hvalid, hlow, hhigh⟩, hsecond, hnanos, hoffset, ht⟩ := Rfc3339.exists_of_parse? hraw
  -- The day that is shown is the day that was written, so it lies in a year that has four digits.
  obtain ⟨hfirst, hlast⟩ := Date.toDay_between hvalid
  have hstart : yearStart 0 ≤ yearStart d.year := yearStart_mono hlow
  have hend : yearStart (d.year + 1) ≤ yearStart 10000 := yearStart_mono (by omega)
  have hbounds : yearStart 0 = 0 ∧ yearStart 10000 = 3652425 := by decide
  obtain ⟨⟨n⟩, offset⟩ := t
  simp only [Instant.ofSeconds, Instant.nanosPerSecond, Instant.epochDay, Instant.secondsPerDay,
    Instant.mk.injEq] at ht
  simp only [shown, Instant.day, Instant.secondOfDay, Instant.seconds, Instant.nanosPerSecond, Instant.epochDay,
    Instant.secondsPerDay]
  simp only at hoffset
  omega

theorem Accepted.passesEnd_iff (h : t.Accepted) : t.PassesEnd ↔ 9999 < t.instant.date.year := by
  obtain ⟨⟨hlow, hhigh⟩, hoffset, hday⟩ := h.day_shown
  have hsecond := t.shown.secondOfDay_lt
  have hlast : (⟨9999, 12, 31⟩ : Date).toDay = 3652424 := by decide
  rw [PassesEnd, Instant.date_eq_iff (by decide), hlast, Instant.lt_year_iff]
  omega

theorem Accepted.passesStart_iff (h : t.Accepted) : t.PassesStart ↔ t.instant.date.year < 0 := by
  obtain ⟨⟨hlow, hhigh⟩, hoffset, hday⟩ := h.day_shown
  have hsecond := t.shown.secondOfDay_lt
  have hfirst : (⟨0, 1, 1⟩ : Date).toDay = 0 := by decide
  rw [PassesStart, Instant.date_eq_iff (by decide), hfirst, Instant.year_lt_zero_iff]
  omega

theorem Accepted.inCalendar_iff (h : t.Accepted) : t.instant.InCalendar ↔ ¬ t.PassesEnd ∧ ¬ t.PassesStart := by
  rw [h.passesEnd_iff, h.passesStart_iff, Int.not_lt, Int.not_lt, and_comm]
  rfl

end Timestamp
end Lookout.Time
