import Lookout.Json.Value
import Lookout.Query.Predicate

/-! What the service notes about its work. -/

namespace Lookout

/-- How much attention a notice deserves. -/
inductive NoticeLevel where
  | debug
  | info
  deriving Repr, DecidableEq

def NoticeLevel.name : NoticeLevel → String
  | .debug => "DEBUG"
  | .info => "INFO"

/-- An event worth noting. -/
inductive Notice where
  /-- A query was read. -/
  | compiled (mode : Option Query.MatchMode) (terms : Nat) (hasPredicate : Bool) (conditions : Nat)
  /-- A search is over. -/
  | searched (total : UInt64) (pageSize : Nat) (limit offset : UInt32)
  /-- A batch of events was indexed, `total` so far. -/
  | backfilled (indexed total : UInt64)
  deriving Repr, DecidableEq

namespace Notice

def level : Notice → NoticeLevel
  | .compiled .. => .debug
  | .searched .. => .debug
  | .backfilled .. => .info

def message : Notice → String
  | .compiled .. => "Compiled event search."
  | .searched .. => "Event search done."
  | .backfilled .. => "Backfilled event search vectors."

/-- A number among the fields. -/
def count (n : Nat) : Json.Value := .ofUInt64 (UInt64.ofNat n)

/-- The fields of a notice. -/
def fields : Notice → List (String × Json.Value)
  | .compiled mode terms hasPredicate conditions =>
    (mode.toList.map fun m => ("match_mode", .ofString m.name))
      ++ [("fragment_count", count terms), ("has_predicate", .bool hasPredicate), ("condition_count", count conditions)]
  | .searched total pageSize limit offset =>
    [("total_count", .ofUInt64 total), ("page_size", count pageSize), ("limit", count limit.toNat),
     ("offset", count offset.toNat)]
  | .backfilled indexed total => [("indexed", .ofUInt64 indexed), ("total", .ofUInt64 total)]

end Notice
end Lookout
