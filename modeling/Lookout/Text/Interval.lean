/-! Intervals of code points, in which the tables of character classes are written. -/

namespace Lookout.Text

/-- The code points from the first number to the second, both included. -/
abbrev Interval := Nat × Nat

/-- Some interval of the table holds the character. -/
def Interval.anyHolds (table : List Interval) (c : Char) : Bool :=
  table.any fun i => i.1 ≤ c.toNat && c.toNat ≤ i.2

end Lookout.Text
