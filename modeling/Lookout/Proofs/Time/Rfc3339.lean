import Lookout.Proofs.Text.Trim
import Lookout.Proofs.Time.Calendar
import Lookout.Time.Rfc3339
import Mathlib.Algebra.Group.Nat.Defs
import Mathlib.Data.List.DropRight

/-! Timestamps as text. Each part of a text is read back as it was written, whatever follows it, so the text of an
    instant is read as the instant. The digits of a fraction that are not written are zeros, and so are those that
    are missing when it is read. -/

namespace Lookout.Time

namespace Rfc3339

variable {rest : List Char}

/-! ### Numbers of a fixed width -/

theorem isDigit_of_mem_padded {width n : Nat} {c : Char} (h : c ∈ padded width n) : c.isDigit = true := by
  rcases List.mem_append.mp h with h | h
  · rw [(List.mem_replicate.mp h).2]
    rfl
  · exact Text.isDigit_of_mem_decimal h

theorem length_padded {width n : Nat} (hwidth : 0 < width) (h : n < 10 ^ width) : (padded width n).length = width := by
  have hle : (Text.decimal n).length ≤ width := (Nat.length_toDigits_le_iff (by decide) hwidth).mpr h
  rw [padded, Text.padLeft, List.length_append, List.length_replicate]
  exact Nat.sub_add_cancel hle

theorem ofDecimal_padded (width n : Nat) : Text.ofDecimal (padded width n) = n := by
  rw [padded, Text.padLeft, Text.ofDecimal, Nat.ofDigitChars_append, Nat.ofDigitChars_replicate_zero, Nat.mul_zero]
  exact Text.ofDecimal_decimal n

theorem number?_padded {width n : Nat} (hwidth : 0 < width) (h : n < 10 ^ width) :
    number? width (padded width n ++ rest) = some (n, rest) := by
  have hlength := length_padded hwidth h
  have htake : (padded width n ++ rest).take width = padded width n := List.take_left' hlength
  have hdrop : (padded width n ++ rest).drop width = rest := List.drop_left' hlength
  have hdigits : (padded width n).all Char.isDigit = true :=
    List.all_eq_true.mpr fun c hc => isDigit_of_mem_padded hc
  rw [number?, htake, hdrop, if_pos ⟨hlength, hdigits⟩, ofDecimal_padded]

/-! ### Fractions of a second -/

/-- The zeros at the end that are left out are those that are added when the fraction is read. -/
theorem nanosOfFraction_strip {nanos : Nat} (h : nanos < 10 ^ 9) :
    nanosOfFraction ((padded 9 nanos).rdropWhile (· == '0')) = nanos := by
  generalize hkept : (padded 9 nanos).rdropWhile (· == '0') = kept
  generalize hzeros : (padded 9 nanos).rtakeWhile (· == '0') = zeros
  have hsplit : kept ++ zeros = padded 9 nanos := by rw [← hkept, ← hzeros, List.rdropWhile_append_rtakeWhile]
  have hlength : kept.length + zeros.length = 9 := by
    rw [← List.length_append, hsplit, length_padded (by decide) h]
  have hall : zeros = List.replicate zeros.length '0' := by
    refine List.eq_replicate_iff.mpr ⟨rfl, fun c hc => ?_⟩
    rw [← hzeros] at hc
    simpa using List.mem_rtakeWhile_imp hc
  have hvalue : Text.ofDecimal (kept ++ zeros) = nanos := by rw [hsplit, ofDecimal_padded]
  rw [hall, Text.ofDecimal, Nat.ofDigitChars_append, Nat.ofDigitChars_replicate_zero, Nat.mul_comm] at hvalue
  rw [nanosOfFraction, List.take_of_length_le (by omega), show 9 - kept.length = zeros.length by omega]
  exact hvalue

theorem fraction?_fractionText {nanos : Nat} (h : nanos < 10 ^ 9) {c : Char} (hc : c.isDigit = false)
    (hpoint : c ≠ '.') (rest : List Char) :
    fraction? (fractionText nanos ++ c :: rest) = some (nanos, c :: rest) := by
  rw [fractionText]
  split
  · next hzero =>
    rw [hzero, List.nil_append, fraction?.eq_2]
    intro r hr
    exact hpoint (List.cons.inj hr).1
  · next hnonzero =>
    have hread := nanosOfFraction_strip h
    change fraction? ('.' :: (padded 9 nanos).rdropWhile (· == '0') ++ c :: rest) = _
    have hdigits : ∀ d ∈ (padded 9 nanos).rdropWhile (· == '0'), d.isDigit = true := by
      intro d hd
      exact isDigit_of_mem_padded ((List.rdropWhile_prefix _ _).subset hd)
    generalize (padded 9 nanos).rdropWhile (· == '0') = kept at hread hdigits
    have htake : (kept ++ c :: rest).takeWhile Char.isDigit = kept := by
      rw [List.takeWhile_append_of_pos hdigits, List.takeWhile_cons_of_neg (by simp [hc]), List.append_nil]
    have hdrop : (kept ++ c :: rest).dropWhile Char.isDigit = c :: rest := by
      rw [List.dropWhile_append_of_pos hdigits, List.dropWhile_cons_of_neg (by simp [hc])]
    rw [List.cons_append, fraction?, htake, hdrop]
    cases kept with
    -- Only zero nanoseconds are all zeros.
    | nil => exact absurd hread.symm hnonzero
    | cons d kept => exact congrArg (fun n => some (n, c :: rest)) hread

/-! ### Dates and times of day -/

theorem date?_append {d : Date} (hvalid : d.isValid = true) (hlow : 0 ≤ d.year) (hhigh : d.year ≤ 9999)
    (rest : List Char) :
    date? (padded 4 d.year.toNat ++ '-' :: padded 2 d.month ++ '-' :: padded 2 d.day ++ rest) = some (d, rest) := by
  obtain ⟨hmonth, hday⟩ := Date.lt_hundred_of_isValid hvalid
  have hyear : (d.year.toNat : Int) = d.year := Int.toNat_of_nonneg hlow
  simp [date?, number?_padded, expect?, hmonth, hday, hyear, hvalid, show d.year.toNat < 10000 by omega]

theorem timeOfDay?_append {second : Nat} (h : second < 86400) (rest : List Char) :
    timeOfDay? (padded 2 (second / 3600) ++ ':' :: padded 2 (second / 60 % 60) ++ ':' :: padded 2 (second % 60) ++ rest)
      = some (second, false, rest) := by
  have hhour : second / 3600 < 24 := by omega
  have hminute : second / 60 % 60 < 60 := Nat.mod_lt _ (by decide)
  have hsecond : second % 60 < 60 := Nat.mod_lt _ (by decide)
  have hsum : 3600 * (second / 3600) + 60 * (second / 60 % 60) + second % 60 = second := by omega
  generalize second / 3600 = hour at hhour hsum
  generalize second / 60 % 60 = minute at hminute hsum
  generalize second % 60 = left at hsecond hsum
  have hread : ∀ {n : Nat} {r : List Char}, n < 60 → number? 2 (padded 2 n ++ r) = some (n, r) :=
    fun hn => number?_padded (by decide) (by omega)
  -- The seconds stay below 60, so no leap second is read.
  simp only [timeOfDay?, List.append_assoc, List.cons_append, hread (show hour < 60 by omega), hread hminute,
    hread hsecond, expect?, if_true, Option.bind_eq_bind, Option.bind_some]
  rw [if_pos ⟨by omega, by omega, by omega⟩, Nat.min_eq_left (by omega), hsum, decide_eq_false (by omega)]

/-! ### Whole texts -/

theorem padded_ne_nil (width n : Nat) : padded width n ≠ [] := by
  intro h
  exact Text.decimal_ne_nil n (List.append_eq_nil_iff.mp h).2

theorem getLast?_utcText (d : Date) (second nanos : Nat) : (utcText d second nanos).getLast? = some 'Z' := by
  rw [utcText, List.getLast?_append, List.getLast?_singleton, Option.some_or]

theorem trim_utcText (d : Date) (second nanos : Nat) : Text.trim (utcText d second nanos) = utcText d second nanos := by
  refine Text.trim_of_ends (fun c hc => ?_) fun c hc => ?_
  · obtain ⟨digit, digits, hyear⟩ := List.exists_cons_of_ne_nil (padded_ne_nil 4 d.year.toNat)
    have hdigit : digit.isDigit = true := isDigit_of_mem_padded (hyear ▸ List.mem_cons_self)
    rw [utcText, hyear] at hc
    obtain rfl : digit = c := Option.some.inj hc
    cases hblank : Text.isBlank digit with
    | false => rfl
    | true => exact absurd hdigit (by simp [Text.isDigit_of_isBlank hblank])
  · rw [getLast?_utcText] at hc
    obtain rfl : 'Z' = c := Option.some.inj hc
    rfl

/-- The text of a date and a time of day is read as the instant that is so many seconds and nanoseconds behind the
    start of the day. -/
theorem parse?_utcText {d : Date} {second nanos : Nat} (hvalid : d.isValid = true) (hlow : 0 ≤ d.year)
    (hhigh : d.year ≤ 9999) (hsecond : second < 86400) (hnanos : nanos < 10 ^ 9) {b b' : List Char}
    (hb : Text.isBlankText b = true) (hb' : Text.isBlankText b' = true) :
    parse? (b ++ utcText d second nanos ++ b') =
      some ⟨.ofSeconds ((d.toDay - Instant.epochDay) * Instant.secondsPerDay + second) nanos, 0⟩ := by
  have hdate := date?_append hvalid hlow hhigh ('T' :: padded 2 (second / 3600) ++ ':' ::
    padded 2 (second / 60 % 60) ++ ':' :: padded 2 (second % 60) ++ fractionText nanos ++ ['Z'])
  have htime := timeOfDay?_append hsecond (fractionText nanos ++ ['Z'])
  have hfraction := fraction?_fractionText hnanos (show 'Z'.isDigit = false from rfl) (by decide) []
  simp only [List.append_assoc, List.cons_append] at hdate htime
  rw [parse?, Text.trim_between hb hb', trim_utcText, utcText]
  simp only [List.append_assoc, List.cons_append, hdate, htime, hfraction, offset?, Option.bind_eq_bind,
    Option.bind_some]
  simp

end Rfc3339

/-! ### Instants -/

namespace Instant

variable (t : Instant)

theorem secondOfDay_lt : t.secondOfDay < 86400 := by
  rw [secondOfDay, secondsPerDay]
  omega

theorem subsecond_lt : t.subsecond < 10 ^ 9 := by
  rw [subsecond, nanosPerSecond]
  omega

/-- An instant is its second of the day behind the start of its day, and its nanoseconds behind that. -/
theorem ofSeconds_date :
    ofSeconds ((t.date.toDay - epochDay) * secondsPerDay + t.secondOfDay) t.subsecond = t := by
  obtain ⟨nanos⟩ := t
  rw [date, Date.toDay_ofDay, secondOfDay, subsecond, seconds, ofSeconds]
  simp only [nanosPerSecond, secondsPerDay, epochDay, Instant.mk.injEq]
  omega

/-- The year of the instant, in UTC, has four digits. -/
def InCalendar : Prop := 0 ≤ t.date.year ∧ t.date.year ≤ 9999

end Instant

/-- The text of a timestamp, at whatever offset it is held. -/
def Timestamp.text (t : Timestamp) : Except WriteError (List Char) := Rfc3339.text t.instant

namespace Rfc3339

open Text (isBlankText)

theorem text_of_inCalendar {t : Instant} (h : t.InCalendar) :
    text t = .ok (utcText t.date t.secondOfDay t.subsecond) := by
  rw [text, check, if_neg (Int.not_lt.mpr h.1), if_neg (Int.not_lt.mpr h.2)]
  rfl

theorem parse?_utcText_date {t : Instant} (h : t.InCalendar) (b b' : List Char) (hb : isBlankText b = true)
    (hb' : isBlankText b' = true) :
    parse? (b ++ utcText t.date t.secondOfDay t.subsecond ++ b') = some ⟨t, 0⟩ := by
  have hvalid : t.date.isValid = true := Date.isValid_ofDay _
  rw [parse?_utcText hvalid h.1 h.2 t.secondOfDay_lt t.subsecond_lt hb hb', t.ofSeconds_date]

/-- An instant in the calendar has one text, in UTC, which is read as the instant. So what was read from any text has
    a text that is read as the same instant, and that is written again as it is. -/
theorem text_reads_back :
    (∀ t : Timestamp, t.instant.InCalendar →
      ∃ s, (∀ t' : Timestamp, t'.instant = t.instant → t'.text = .ok s) ∧ s.getLast? = some 'Z' ∧
        ∀ b b', isBlankText b = true → isBlankText b' = true → parse? (b ++ s ++ b') = some ⟨t.instant, 0⟩) ∧
      ∀ raw t, parse? raw = some t → t.instant.InCalendar →
        ∃ s t', t.text = .ok s ∧ parse? s = some t' ∧ t'.instant = t.instant ∧ t'.text = .ok s := by
  constructor
  · intro t h
    refine ⟨_, fun t' ht' => ?_, getLast?_utcText t.instant.date _ _, fun b b' hb hb' => parse?_utcText_date h b b' hb hb'⟩
    rw [Timestamp.text, ht', text_of_inCalendar h]
  · intro raw t _ h
    have hread := parse?_utcText_date h [] [] rfl rfl
    rw [List.nil_append, List.append_nil] at hread
    exact ⟨_, ⟨t.instant, 0⟩, text_of_inCalendar h, hread, rfl, text_of_inCalendar h⟩

/-- The last nanosecond of the calendar, held behind UTC, and a leap second, written ahead of UTC, with a fraction of
    its own that is dropped. -/
theorem text_reads_back_at_ends :
    (∃ s, Timestamp.text ⟨⟨253402300799999999999⟩, -43200⟩ = .ok s ∧
      parse? ('\u2003' :: s ++ ['\n']) = some ⟨⟨253402300799999999999⟩, 0⟩) ∧
    parse? "2017-01-01T05:29:60.25+05:30".toList = some ⟨⟨1483228799999999999⟩, 19800⟩ ∧
      ∃ s t', Timestamp.text ⟨⟨1483228799999999999⟩, 19800⟩ = .ok s ∧ parse? s = some t' ∧
        t'.instant = ⟨1483228799999999999⟩ ∧ t'.text = .ok s := by
  obtain ⟨hwritten, hread⟩ := text_reads_back
  have hleap : parse? "2017-01-01T05:29:60.25+05:30".toList = some ⟨⟨1483228799999999999⟩, 19800⟩ := by decide +kernel
  have hlast : Instant.InCalendar ⟨253402300799999999999⟩ := ⟨by decide +kernel, by decide +kernel⟩
  obtain ⟨s, htext, -, hback⟩ := hwritten ⟨⟨253402300799999999999⟩, -43200⟩ hlast
  refine ⟨⟨s, htext _ rfl, hback ['\u2003'] ['\n'] (by decide) (by decide)⟩, hleap, ?_⟩
  exact hread _ _ hleap ⟨by decide +kernel, by decide +kernel⟩

end Rfc3339
end Lookout.Time
