import Lookout.Binary64
import Lookout.Decimal.Layout
import Lookout.Text.Digits

/-! Numbers of JSON texts. A numeral is a number as it is written, with an exact value. The number that it
    is read as is a 64-bit integer if it is written as one and fits, and otherwise a binary64 number found
    by scaling the leading digits by powers of ten, with one rounding for each step; that number may lie
    one place beside the nearest one. -/

namespace Lookout.Json

/-- A number as it is written: the digits before the point, those behind it (none without a point), and the
    exponent's sign and digits. -/
structure Numeral where
  negative : Bool
  whole : List Char
  fraction : List Char
  exponent : Option (Bool × List Char)
  deriving Repr, DecidableEq

/-- The exponent that a numeral writes. -/
def Numeral.writtenExponent (n : Numeral) : Int :=
  match n.exponent with
  | none => 0
  | some (negative, ds) => if negative then -(Text.ofDecimal ds : Int) else Text.ofDecimal ds

/-- The exact value of a numeral. -/
def Numeral.toRat (n : Numeral) : Rat :=
  (if n.negative then -1 else 1) *
    Decimal.toRat ⟨Text.ofDecimal (n.whole ++ n.fraction), n.writtenExponent - n.fraction.length⟩

/-- A number that was read. -/
inductive Number where
  | natural (n : UInt64)
  | negative (i : Int64)
  | float (x : Binary64)
  deriving Repr, DecidableEq

/-! ### Reading -/

/-- The digits taken up behind `n` while the number fits 64 bits, and the digits that are left. -/
def takeFitting (n : Nat) : List Char → Nat × List Char
  | [] => (n, [])
  | d :: ds =>
    let next := 10 * n + (d.toNat - '0'.toNat)
    if next < 18446744073709551616 then takeFitting next ds else (n, d :: ds)

/-- A power of ten, rounded. -/
def powerOfTen (n : Nat) : Binary64 := .ofNat (Nat.pow 10 n)

/-- `x` divided `n` times by 10 ^ 308. -/
def divideFar (x : Binary64) : Nat → Binary64
  | 0 => x
  | n + 1 => if x.magnitude = 0 then x else divideFar (x.div (powerOfTen 308)) n

/-- `x` times a power of ten, none if that is not finite. An exponent below -308 is reached in steps. -/
def scaleByTen? (x : Binary64) : Int → Option Binary64
  | .ofNat n =>
    if n ≤ 308 then
      let r := x.mul (powerOfTen n)
      if r.isFinite then some r else none
    else if x.magnitude = 0 then some x else none
  | .negSucc n =>
    let far := n / 308
    some ((divideFar x far).div (powerOfTen (n + 1 - 308 * far)))

/-- The largest exponent that is computed with; beyond it only zero stays finite. -/
def exponentLimit : Int := 2147483647

/-- The float that a numeral is read as, none if it is too large. -/
def Numeral.float? (n : Numeral) : Option Binary64 :=
  let (wholePart, skipped) := takeFitting 0 n.whole
  let (digits, dropped) := takeFitting wholePart n.fraction
  let place : Int := skipped.length - (n.fraction.length - dropped.length : Nat)
  let written := n.writtenExponent
  let scaled :=
    if exponentLimit < written then if digits = 0 then some Binary64.zero else none
    else if written < -exponentLimit then some Binary64.zero
    else scaleByTen? (.ofNat digits) (place + written)
  scaled.map fun x => if n.negative then x.neg else x

/-- The number that a numeral is read as, none if it is too large for a float. -/
def Numeral.number? (n : Numeral) : Option Number :=
  let (digits, skipped) := takeFitting 0 n.whole
  if skipped.isEmpty && n.fraction.isEmpty && n.exponent.isNone then
    if !n.negative then some (.natural (UInt64.ofNat digits))
    else if digits = 0 || 9223372036854775808 < digits then some (.float (Binary64.ofNat digits).neg)
    else some (.negative (Int64.ofInt (-(digits : Int))))
  else n.float?.map .float

/-! ### Integers and floats among the numbers -/

namespace Number

/-- An integer as a number. -/
def ofInt64 (i : Int64) : Number := if i < 0 then .negative i else .natural i.toUInt64

/-- The integer that a number is held as. A float is none, whatever its value. -/
def toInt? : Number → Option Int
  | .natural n => some n.toNat
  | .negative i => some i.toInt
  | .float _ => none

/-- The float that a number gives where a float is wanted. -/
def toBinary64 : Number → Binary64
  | .natural n => .ofNat n.toNat
  | .negative i => .ofInt i.toInt
  | .float x => x

/-- Numbers have the fewest digits that read back, with a fraction even if it is zero; from 10 ^ 16 on and
    below 10 ^ -5 they have an exponent with its sign. -/
def layout : Decimal.Layout where
  leastPositional := -5
  leastScientific := 16
  whole := ['.', '0']
  exponentMark := ['e']
  plus := ['+']

/-- The text of a float; what is not finite has none of its own. -/
def floatText (x : Binary64) : List Char :=
  if !x.isFinite then ['n', 'u', 'l', 'l']
  else
    let digits := if x.magnitude = 0 then ['0', '.', '0'] else (Decimal.shortest x).text layout
    if x.isNegative then '-' :: digits else digits

/-- The text of a number. -/
def text : Number → List Char
  | .natural n => Text.decimal n.toNat
  | .negative i => Text.signedDecimal i.toInt
  | .float x => floatText x

end Number
end Lookout.Json
