import Lookout.Binary64

/-! The shortest decimal of a binary64 number: among the decimals that round to the number it has the
    fewest digits, and of those it is the nearest. The reals that round to a number form an interval
    around it, whose ends belong to it if the significand is even. On the grid of the decimals with a given
    last place only the two neighbours of the number can be the nearest in that interval, so they alone
    are tried, from the coarsest grid on. -/

namespace Lookout

/-- A coefficient times a power of ten. -/
structure Decimal where
  coefficient : Nat
  exponent : Int
  deriving Repr, DecidableEq

namespace Decimal

/-- The value of a decimal. -/
def toRat (d : Decimal) : Rat :=
  (d.coefficient * Nat.pow 10 d.exponent.toNat : Nat) / (Nat.pow 10 (-d.exponent).toNat : Nat)

/-- The exponent of the power of ten at or below a positive quotient. -/
def decade (num den : Nat) : Int :=
  let guess : Int := ((num.log2 : Int) - (den.log2 : Int)) * 1233 / 4096
  let reaches (e : Int) : Bool := den * Nat.pow 10 e.toNat ≤ num * Nat.pow 10 (-e).toNat
  if reaches (guess + 1) then guess + 1 else if reaches guess then guess else guess - 1

/-- The reals that round to one number: from `low / den` to `high / den`. -/
structure Interval where
  low : Nat
  high : Nat
  den : Nat
  closed : Bool

/-- The interval of a positive finite number. Below a power of two the numbers lie closer. -/
def Interval.around (x : Binary64) : Interval :=
  let m := x.significand
  let up := Nat.pow 2 x.exponent.toNat
  let lower := if m = Binary64.fractionCount ∧ -1074 < x.exponent then 1 else 2
  ⟨(4 * m - lower) * up, (4 * m + 2) * up, 4 * x.denominator, m % 2 == 0⟩

/-- The decimal lies in the interval. -/
def Interval.holds (i : Interval) (d : Decimal) : Bool :=
  let num := d.coefficient * Nat.pow 10 d.exponent.toNat * i.den
  let scale := Nat.pow 10 (-d.exponent).toNat
  if i.closed then i.low * scale ≤ num && num ≤ i.high * scale
  else i.low * scale < num && num < i.high * scale

/-- The decimal with the last place `p` that lies in the interval and is nearest to `num / den`; of two
    equally near the one with an even coefficient. -/
def onGrid? (i : Interval) (num den : Nat) (p : Int) : Option Decimal :=
  let scaledNum := num * Nat.pow 10 (-p).toNat
  let scaledDen := den * Nat.pow 10 p.toNat
  let below : Decimal := ⟨scaledNum / scaledDen, p⟩
  let above : Decimal := ⟨scaledNum / scaledDen + 1, p⟩
  match i.holds below, i.holds above with
  | true, true => some ⟨Binary64.nearestQuotient scaledNum scaledDen, p⟩
  | true, false => some below
  | false, true => some above
  | false, false => none

/-- The decimal without the zero at its end. -/
def trimZero (d : Decimal) : Decimal :=
  if d.coefficient % 10 = 0 then ⟨d.coefficient / 10, d.exponent + 1⟩ else d

/-- The shortest decimal of the absolute value of a finite number that is not zero. Seventeen digits always
    suffice. -/
def shortest (x : Binary64) : Decimal :=
  let i := Interval.around x
  let e := decade x.numerator x.denominator
  match (List.range 17).findSome? fun (k : Nat) => onGrid? i x.numerator x.denominator (e - k) with
  | some d => d.trimZero
  | none => ⟨0, 0⟩

end Decimal
end Lookout
