import Lookout.Text.Blank
import Lookout.Text.Digits
import Lookout.Time.Instant

/-! Timestamps as RFC 3339 text. Any one ASCII character may stand between date and time, the fraction may
    have any number of digits, and the sixtieth second is taken where a leap second can be. Written text is
    always in UTC. -/

namespace Lookout.Time

/-- An instant, held at an offset from UTC in seconds. -/
structure Timestamp where
  instant : Instant
  offset : Int
  deriving Repr, DecidableEq

/-- Why an instant has no text. -/
inductive WriteError where
  /-- It lies before the year 0. -/
  | beforeCalendar
  /-- It lies behind the year 9999. -/
  | beyondCalendar
  deriving Repr, DecidableEq

namespace Rfc3339

/-! ### Reading -/

/-- The number that the first `n` characters write, all of them digits, and the rest. -/
def number? (n : Nat) (s : List Char) : Option (Nat × List Char) :=
  let ds := s.take n
  if ds.length = n ∧ ds.all Char.isDigit then some (Text.ofDecimal ds, s.drop n) else none

/-- The rest behind one character. -/
def expect? (c : Char) : List Char → Option (List Char)
  | d :: r => if c = d then some r else none
  | [] => none

/-- The nanoseconds of the digits behind the point. Those from the tenth on are dropped. -/
def nanosOfFraction (ds : List Char) : Nat :=
  let kept := ds.take 9
  Text.ofDecimal kept * Nat.pow 10 (9 - kept.length)

/-- The fraction of a second, if a point follows. -/
def fraction? : List Char → Option (Nat × List Char)
  | '.' :: r =>
    match r.takeWhile Char.isDigit with
    | [] => none
    | ds => some (nanosOfFraction ds, r.dropWhile Char.isDigit)
  | r => some (0, r)

/-- An offset behind its sign, in seconds. -/
def unsignedOffset? (s : List Char) : Option (Nat × List Char) := do
  let (hours, r) ← number? 2 s
  let r ← expect? ':' r
  let (minutes, r) ← number? 2 r
  if hours ≤ 23 ∧ minutes ≤ 59 then some (3600 * hours + 60 * minutes, r) else none

/-- The offset from UTC in seconds. -/
def offset? : List Char → Option (Int × List Char)
  | 'Z' :: r => some (0, r)
  | 'z' :: r => some (0, r)
  | '+' :: r => (unsignedOffset? r).map fun (n, r) => ((n : Int), r)
  | '-' :: r => (unsignedOffset? r).map fun (n, r) => (-(n : Int), r)
  | _ => none

/-- A date, and the rest. -/
def date? (s : List Char) : Option (Date × List Char) := do
  let (year, r) ← number? 4 s
  let r ← expect? '-' r
  let (month, r) ← number? 2 r
  let r ← expect? '-' r
  let (day, r) ← number? 2 r
  let d : Date := ⟨year, month, day⟩
  if d.isValid then some (d, r) else none

/-- A time of day in seconds, which may be the sixtieth of its minute, and whether it is. -/
def timeOfDay? (s : List Char) : Option (Nat × Bool × List Char) := do
  let (hour, r) ← number? 2 s
  let r ← expect? ':' r
  let (minute, r) ← number? 2 r
  let r ← expect? ':' r
  let (second, r) ← number? 2 r
  if hour ≤ 23 ∧ minute ≤ 59 ∧ second ≤ 60 then
    some (3600 * hour + 60 * minute + min second 59, second = 60, r)
  else none

/-- A leap second can follow: in UTC it is the last second of a month. -/
def precedesLeapSecond (t : Instant) : Bool := t.secondOfDay == 86399 && t.date.endsMonth

/-- The timestamp of a text. A leap second is the last nanosecond of the second before. -/
def parse? (raw : List Char) : Option Timestamp := do
  let (date, r) ← date? (Text.trim raw)
  let .cons separator r := r | none
  if 128 ≤ separator.toNat then none
  let (second, leap, r) ← timeOfDay? r
  let (nanos, r) ← fraction? r
  let (offset, r) ← offset? r
  if !r.isEmpty then none
  let days := date.toDay - Instant.epochDay
  let instant := Instant.ofSeconds (days * Instant.secondsPerDay + second - offset)
    (if leap then 999999999 else nanos)
  if leap && !precedesLeapSecond instant then none
  else some ⟨instant, offset⟩

/-! ### Writing -/

/-- The digits of a number, with zeros in front. -/
def padded (width n : Nat) : List Char := Text.padLeft width (Text.decimal n)

/-- The digits behind the point, without zeros at the end; none if there are no nanoseconds. -/
def fractionText (nanos : Nat) : List Char :=
  if nanos = 0 then [] else '.' :: ((padded 9 nanos).reverse.dropWhile (· == '0')).reverse

/-- The text of a date and a time in UTC. -/
def utcText (d : Date) (second nanos : Nat) : List Char :=
  padded 4 d.year.toNat ++ '-' :: padded 2 d.month ++ '-' :: padded 2 d.day ++ 'T' :: padded 2 (second / 3600)
    ++ ':' :: padded 2 (second / 60 % 60) ++ ':' :: padded 2 (second % 60) ++ fractionText nanos ++ ['Z']

/-- The year of the instant has a text. -/
def check (t : Instant) : Except WriteError Unit :=
  if t.date.year < 0 then .error .beforeCalendar
  else if 9999 < t.date.year then .error .beyondCalendar
  else .ok ()

/-- The text of an instant, in UTC. -/
def text (t : Instant) : Except WriteError (List Char) :=
  (check t).map fun _ => utcText t.date t.secondOfDay t.subsecond

end Rfc3339
end Lookout.Time
