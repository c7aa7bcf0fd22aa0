import Lookout.Decimal.Nearest
import Lookout.Text.Blank
import Lookout.Text.Digits
import Lookout.Time.Calendar
import Lookout.Toml.Value

/-! TOML values that are written without quotes and brackets: booleans, numbers, dates and times. -/

namespace Lookout.Toml

/-! ### Numbers -/

/-- A number without its underscores. -/
def withoutUnderscores (s : List Char) : List Char := s.filter (· != '_')

/-- Each underscore stands between two digits. The sign of a number may stand in place of the first. -/
def underscoresFit (isDigit : Char → Bool) (s : List Char) : Bool :=
  let pieces := Text.cut (· == '_') s
  s.head? != some '_' && (pieces.drop 1).all (·.head?.any isDigit)
    && pieces.dropLast.all fun piece => piece.length ≤ 1 || piece.getLast?.any isDigit

/-- A digit of any base. -/
def isAnyDigit (c : Char) : Bool := (Text.hexDigit? c).isSome

/-- An integer with 128 bits at most, signed or not. -/
def ofInteger (i : Int) : Value :=
  if -170141183460469231731687303715884105728 ≤ i ∧ i < 340282366920938463463374607431768211456 then .integer i
  else .excess

/-- An integer in another base than ten, behind its mark. Without a digit it is there, but cannot be taken. -/
def based? (base : Nat) (s : List Char) : Option Value := do
  let n ← Text.ofDigits? base (withoutUnderscores s)
  if !underscoresFit isAnyDigit s then none
  else if s.isEmpty then some .excess
  else some (ofInteger n)

/-- The value of a float's digits and exponent. -/
def ofFloat (negative : Bool) (whole fraction : List Char) (exponent : Int) : Value :=
  let x := Decimal.nearest negative ⟨Text.ofDecimal (whole ++ fraction), exponent - fraction.length⟩
  if x.isFinite then .float x else .excess

/-- Digits at the start of a text, one at least, without the underscores among them, and the rest. -/
def digits? (s : List Char) : Option (List Char × List Char) :=
  let isPart (c : Char) : Bool := c.isDigit || c == '_'
  match withoutUnderscores (s.takeWhile isPart) with
  | [] => none
  | ds => some (ds, s.dropWhile isPart)

/-- The fraction at the start of a text, if there is one, and the rest. -/
def fraction? : List Char → Option (List Char × List Char)
  | '.' :: s => digits? s
  | s => some ([], s)

/-- The exponent that a text is, if it is not empty. -/
def exponent? : List Char → Option Int
  | [] => some 0
  | mark :: s =>
    let (negative, s) : Bool × List Char := match s with
      | '-' :: s => (true, s)
      | '+' :: s => (false, s)
      | s => (false, s)
    match digits? s with
    | some (ds, []) =>
      if mark == 'e' || mark == 'E' then
        some (if negative then -(Text.ofDecimal ds : Int) else Text.ofDecimal ds)
      else none
    | _ => none

/-- A float behind its sign. It does not begin with a zero and another digit. -/
def float? (negative : Bool) (s : List Char) : Option Value := do
  let (whole, r) ← digits? s
  let (fraction, r) ← fraction? r
  let exponent ← exponent? r
  if s.head? == some '0' && 1 < whole.length then none
  else some (ofFloat negative whole fraction exponent)

/-- The value of the digits of a decimal integer. Behind an underscore there may be anything, but an integer
    that does not only have digits cannot be taken. -/
def ofDecimalDigits (negative : Bool) (s : List Char) : Value :=
  match Text.natural? (withoutUnderscores s) with
  | some n => ofInteger (if negative then -(n : Int) else n)
  | none => .excess

/-- A decimal number in the text `s`, of which `r` is what follows the sign. -/
def decimal? (negative : Bool) (s r : List Char) : Option Value :=
  let rest := r.dropWhile Char.isDigit
  if rest.any fun c => c == '.' || c == 'e' || c == 'E' then
    if underscoresFit Char.isDigit s then float? negative r else none
  else if rest.head?.all (· == '_') && !(r.head? == some '0' && 1 < r.length) && underscoresFit isAnyDigit s
      && !r.isEmpty then
    some (ofDecimalDigits negative r)
  else none

/-- A number that is not finite, or a decimal one, of which `r` is what follows the sign. -/
def signed? (negative : Bool) (s r : List Char) : Option Value :=
  if r = ['i', 'n', 'f'] then some (.float (.ofMagnitude negative Binary64.infinityMagnitude))
  else if r = ['n', 'a', 'n'] then some (.float (.ofMagnitude negative 9221120237041090560))
  else decimal? negative s r

/-- A number. Only a decimal one has a sign. -/
def number? (s : List Char) : Option Value :=
  match s with
  | '+' :: r => signed? false s r
  | '-' :: r => signed? true s r
  | '0' :: 'x' :: r => based? 16 r
  | '0' :: 'o' :: r => based? 8 r
  | '0' :: 'b' :: r => based? 2 r
  | r => signed? false s r

/-! ### Dates and times -/

/-- The number of two digits, and the rest. -/
def twoDigits? : List Char → Option (Nat × List Char)
  | a :: b :: r => if a.isDigit && b.isDigit then some (Text.ofDecimal [a, b], r) else none
  | _ => none

/-- The rest behind a date of the calendar. -/
def afterDate? (s : List Char) : Option (List Char) := do
  let (century, r) ← twoDigits? s
  let (years, r) ← twoDigits? r
  let .cons '-' r := r | none
  let (month, r) ← twoDigits? r
  let .cons '-' r := r | none
  let (day, r) ← twoDigits? r
  if (Time.Date.mk (100 * century + years : Nat) month day).isValid then some r else none

/-- The rest behind a time of day, which may lack its seconds. -/
def afterTime? (s : List Char) : Option (List Char) := do
  let (hour, r) ← twoDigits? s
  let .cons ':' r := r | none
  let (minute, r) ← twoDigits? r
  if 23 < hour ∨ 59 < minute then none
  match r with
  | ':' :: r =>
    let (second, r) ← twoDigits? r
    if 60 < second then none
    match r with
    | '.' :: r => if (r.takeWhile Char.isDigit).isEmpty then none else some (r.dropWhile Char.isDigit)
    | r => some r
  | r => some r

/-- An offset from UTC behind its sign, and nothing else. -/
def isUnsignedOffset (s : List Char) : Bool :=
  match s with
  | [a, b, ':', c, d] =>
    [a, b, c, d].all Char.isDigit && Text.ofDecimal [a, b] ≤ 23 && Text.ofDecimal [c, d] ≤ 59
  | _ => false

/-- An offset from UTC or nothing at all. -/
def isOffset : List Char → Bool
  | [] => true
  | ['Z'] => true
  | ['z'] => true
  | '+' :: s => isUnsignedOffset s
  | '-' :: s => isUnsignedOffset s
  | _ => false

/-- A date, a time, or both with or without an offset from UTC. -/
def isDatetime (s : List Char) : Bool :=
  match afterDate? s with
  | some [] => true
  | some (c :: r) => (c == 'T' || c == 't' || c == ' ') && (afterTime? r).any isOffset
  | none => afterTime? s == some []

/-! ### All together -/

/-- The value of an unquoted word. -/
def scalar? (s : List Char) : Option Value :=
  if s = ['t', 'r', 'u', 'e'] then some (.boolean true)
  else if s = ['f', 'a', 'l', 's', 'e'] then some (.boolean false)
  else if isDatetime s then some (.datetime s)
  else number? s

/-- A character that ends an unquoted word. A quote in the middle of a word is a part of it. -/
def endsWord (c : Char) : Bool :=
  c == ' ' || c == '\t' || c == '\n' || c == '\r' || c == ',' || c == '=' || c == '#'
    || c == '[' || c == ']' || c == '\x7b' || c == '\x7d'

/-- The unquoted word at the start of a text, and the rest. One space may stand between a date and a time. -/
def word (s : List Char) : List Char × List Char :=
  let first := s.takeWhile (!endsWord ·)
  match s.dropWhile (!endsWord ·) with
  | ' ' :: d :: r =>
    if (afterDate? first) == some [] && d.isDigit then
      (first ++ ' ' :: (d :: r).takeWhile (!endsWord ·), (d :: r).dropWhile (!endsWord ·))
    else (first, ' ' :: d :: r)
  | r => (first, r)

end Lookout.Toml
