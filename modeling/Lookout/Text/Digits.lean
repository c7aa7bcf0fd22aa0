/-! Whole numbers in decimal digits. -/

namespace Lookout.Text

/-- The decimal digits of a number, without leading zeros. -/
def decimal (n : Nat) : List Char := Nat.toDigits 10 n

/-- The number that decimal digits stand for; none at all stand for zero. -/
def ofDecimal (ds : List Char) : Nat := Nat.ofDigitChars 10 ds 0

theorem ofDecimal_decimal (n : Nat) : ofDecimal (decimal n) = n :=
  Nat.ofDigitChars_toDigits (by decide) (by decide)

theorem decimal_ne_nil (n : Nat) : decimal n ≠ [] := Nat.toDigits_ne_nil

theorem isDigit_of_mem_decimal {n : Nat} {c : Char} (h : c ∈ decimal n) : c.isDigit = true :=
  Nat.isDigit_of_mem_toDigits (by decide) (by decide) h

/-- The decimal digits of an integer, after a minus sign if it is negative. -/
def signedDecimal : Int → List Char
  | .ofNat n => decimal n
  | .negSucc n => '-' :: decimal (n + 1)

/-- The number of a text of one or more digits and nothing else. -/
def natural? (s : List Char) : Option Nat :=
  if !s.isEmpty && s.all Char.isDigit then some (ofDecimal s) else none

/-- The integer of a text of one or more digits, after at most one sign. -/
def integer? : List Char → Option Int
  | '-' :: s => (natural? s).map fun n => -(n : Int)
  | '+' :: s => (natural? s).map Int.ofNat
  | s => (natural? s).map Int.ofNat

/-- The number of a text of one or more digits, after a plus sign or not. -/
def unsigned? : List Char → Option Nat
  | '+' :: s => natural? s
  | s => natural? s

/-- The 64-bit integer of this value, if there is one. -/
def int64? (i : Int) : Option Int64 :=
  if -9223372036854775808 ≤ i ∧ i < 9223372036854775808 then some (Int64.ofInt i) else none

/-- The 64-bit integer that a text writes. -/
def readInt64? (s : List Char) : Option Int64 := (integer? s).bind int64?

/-- The value of a hexadecimal digit of either case. -/
def hexDigit? (c : Char) : Option Nat :=
  if c.isDigit then some (c.toNat - '0'.toNat)
  else if 'a' ≤ c ∧ c ≤ 'f' then some (c.toNat - 'a'.toNat + 10)
  else if 'A' ≤ c ∧ c ≤ 'F' then some (c.toNat - 'A'.toNat + 10)
  else none

/-- The number that digits of any case stand for in the base `b`, none if one is no digit of it. -/
def ofDigits? (b : Nat) (ds : List Char) : Option Nat :=
  ds.foldlM (fun n c => (hexDigit? c).bind fun d => if d < b then some (n * b + d) else none) 0

/-- The lower-case hexadecimal digits of a number, without leading zeros. -/
def hexadecimal (n : Nat) : List Char := Nat.toDigits 16 n

/-- Digits with zeros in front, `width` of them at least. -/
def padLeft (width : Nat) (ds : List Char) : List Char := List.replicate (width - ds.length) '0' ++ ds

end Lookout.Text
