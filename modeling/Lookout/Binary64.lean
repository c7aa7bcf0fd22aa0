/-! Binary floating-point numbers of 64 bits, held as their bit patterns and computed with exactly: a
    finite number is a whole significand times a power of two, and a result is the nearest number to the
    exact quotient, ties going to the even significand. -/

namespace Lookout

/-- A binary64 number. Two of them are equal if their bits are, so the zeros differ and a NaN equals
    itself. -/
structure Binary64 where
  bits : UInt64
  deriving Repr, DecidableEq

namespace Binary64

/-- The number of fractions under one exponent, 2 ^ 52. -/
def fractionCount : Nat := 4503599627370496

/-- The bits of positive infinity. Those of a finite number without its sign are less. -/
def infinityMagnitude : Nat := 2047 * fractionCount

/-- The sign bit. -/
def isNegative (x : Binary64) : Bool := 9223372036854775808 ≤ x.bits.toNat

/-- The bits without the sign; on numbers of one sign they order as the numbers do. -/
def magnitude (x : Binary64) : Nat := x.bits.toNat % 9223372036854775808

def isFinite (x : Binary64) : Bool := x.magnitude < infinityMagnitude

def isNaN (x : Binary64) : Bool := infinityMagnitude < x.magnitude

/-- The whole number that the power of two multiplies. -/
def significand (x : Binary64) : Nat :=
  if x.magnitude < fractionCount then x.magnitude else x.magnitude % fractionCount + fractionCount

/-- The exponent of the power of two. -/
def exponent (x : Binary64) : Int := max (x.magnitude / fractionCount) 1 - (1075 : Int)

/-- The number with this sign and these other bits. -/
def ofMagnitude (negative : Bool) (m : Nat) : Binary64 :=
  ⟨UInt64.ofNat (if negative then 9223372036854775808 + m else m)⟩

def zero : Binary64 := ofMagnitude false 0

def one : Binary64 := ofMagnitude false 4607182418800017408

/-- The numerator of a finite number's absolute value over `denominator`. -/
def numerator (x : Binary64) : Nat := x.significand * Nat.pow 2 x.exponent.toNat

/-- A power of two. -/
def denominator (x : Binary64) : Nat := Nat.pow 2 (-x.exponent).toNat

/-- The value of a finite number. -/
def toRat (x : Binary64) : Rat := (if x.isNegative then -1 else 1) * (x.numerator : Rat) / (x.denominator : Rat)

/-! ### Rounding -/

/-- The whole number nearest to a quotient; of two, the even one. -/
def nearestQuotient (num den : Nat) : Nat :=
  let q := num / den
  let twice := 2 * (num % den)
  if twice < den || (twice == den && q % 2 == 0) then q else q + 1

/-- The exponent of the last place of the numbers around a positive quotient: the quotient has 53 binary
    digits above it, or fewer if the exponent is the least one. -/
def placeExponent (num den : Nat) : Int :=
  let e : Int := (num.log2 : Int) - (den.log2 : Int) - 52
  let e := if num * Nat.pow 2 (-e).toNat < den * Nat.pow 2 e.toNat * fractionCount then e - 1 else e
  max e (-1074)

/-- The number nearest to a quotient of whole numbers, infinite if that lies beyond the finite ones. -/
def ofRatio (negative : Bool) (num den : Nat) : Binary64 :=
  if num = 0 then ofMagnitude negative 0
  else
    let e := placeExponent num den
    let q := nearestQuotient (num * Nat.pow 2 (-e).toNat) (den * Nat.pow 2 e.toNat)
    ofMagnitude negative (min infinityMagnitude ((e + 1074).toNat * fractionCount + q))

/-- The number nearest to a natural number. -/
def ofNat (n : Nat) : Binary64 := ofRatio false n 1

/-- The number nearest to an integer. -/
def ofInt (i : Int) : Binary64 := ofRatio (i < 0) i.natAbs 1

def neg (x : Binary64) : Binary64 := ofMagnitude (!x.isNegative) x.magnitude

/-- The product of finite numbers. -/
def mul (x y : Binary64) : Binary64 :=
  ofRatio (x.isNegative != y.isNegative) (x.numerator * y.numerator) (x.denominator * y.denominator)

/-- The quotient of finite numbers, the second not zero. -/
def div (x y : Binary64) : Binary64 :=
  ofRatio (x.isNegative != y.isNegative) (x.numerator * y.denominator) (x.denominator * y.numerator)

/-! ### Order and integers -/

/-- The place of a number in the order of the numbers that are not NaN; the two zeros share one. -/
def rank (x : Binary64) : Int := if x.isNegative then -(x.magnitude : Int) else x.magnitude

/-- The integer that a finite number is, if it is one. -/
def toInt? (x : Binary64) : Option Int :=
  if x.isFinite && x.numerator % x.denominator == 0 then
    some ((if x.isNegative then -1 else 1) * (x.numerator / x.denominator : Nat))
  else none

/-- The number moved into the range from 0 to 1; what is not finite becomes 0. -/
def clampUnit (x : Binary64) : Binary64 :=
  if !x.isFinite || x.rank < 0 then zero
  else if one.rank < x.rank then one
  else x

end Binary64
end Lookout
