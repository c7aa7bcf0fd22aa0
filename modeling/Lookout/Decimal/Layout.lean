import Lookout.Decimal.Shortest
import Lookout.Text.Digits

/-! Decimals as text, positional (`0.00125`) or scientific (`1.25e-3`), as a layout decides. -/

namespace Lookout.Decimal

/-- How numbers are written. The exponent that decides is that of the first digit. -/
structure Layout where
  /-- The least exponent that is written positionally. -/
  leastPositional : Int
  /-- The least exponent from there on that is not. -/
  leastScientific : Int
  /-- What follows a positional number without a fraction. -/
  whole : List Char
  /-- What separates the digits from their exponent. -/
  exponentMark : List Char
  /-- The sign of an exponent that is not negative. -/
  plus : List Char

/-- The digits `ds` with the point after the first `n`. -/
def positional (l : Layout) (ds : List Char) (n : Int) : List Char :=
  if n ≤ 0 then ['0', '.'] ++ List.replicate (-n).toNat '0' ++ ds
  else if ds.length ≤ n.toNat then ds ++ List.replicate (n.toNat - ds.length) '0' ++ l.whole
  else ds.take n.toNat ++ '.' :: ds.drop n.toNat

/-- The digits `ds` with the point after the first, and the exponent. -/
def scientific (l : Layout) (ds : List Char) (exponent : Int) : List Char :=
  let fraction := match ds.drop 1 with
    | [] => []
    | rest => '.' :: rest
  let sign := if exponent < 0 then ['-'] else l.plus
  ds.take 1 ++ fraction ++ l.exponentMark ++ sign ++ Text.decimal exponent.natAbs

/-- The text of a decimal that is not zero. -/
def text (l : Layout) (d : Decimal) : List Char :=
  let ds := Text.decimal d.coefficient
  let exponent := d.exponent + ds.length - 1
  if l.leastPositional ≤ exponent ∧ exponent < l.leastScientific then positional l ds (exponent + 1)
  else scientific l ds exponent

end Lookout.Decimal
