import Lookout.Decimal.Shortest

/-! The binary64 number nearest to a decimal. -/

namespace Lookout.Decimal

/-- The number nearest to a decimal, infinite if that lies beyond the finite numbers. A decimal with more than
    310 digits before the point, or more than 330 zeros behind it, is not computed with. -/
def nearest (negative : Bool) (d : Decimal) : Binary64 :=
  let size := (Nat.toDigits 10 d.coefficient).length + d.exponent
  if d.coefficient = 0 ∨ size < -330 then .ofMagnitude negative 0
  else if 310 < size then .ofMagnitude negative Binary64.infinityMagnitude
  else .ofRatio negative (d.coefficient * Nat.pow 10 d.exponent.toNat) (Nat.pow 10 (-d.exponent).toNat)

end Lookout.Decimal
