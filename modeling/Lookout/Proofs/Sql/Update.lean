import Lookout.Proofs.Sql.Clause

/-! Statements that change events, read: the value that they give to a column, and the events that they change. A
    value may be null, as SQL has it: of nulls comes null, but for the function that takes the first value that is
    none. -/

namespace Lookout.Sql

/-- How a value is computed. The bound values are of the type `β`. -/
inductive Expression (β : Type) where
  | text (s : String)
  | column (name : String)
  | config (name : β)
  | call (function : String) (x y : Expression β)
  deriving Repr, DecidableEq

/-- The events that are indexed. -/
inductive Target (β : Type) where
  | one (eventId : β)
  /-- The first events without a vector, in the order of their ids. -/
  | unindexed (limit : β)
  deriving Repr, DecidableEq

/-- A statement that gives some events a vector, read. -/
structure Update (β : Type) where
  value : Expression β
  target : Target β
  deriving Repr, DecidableEq

/-! ### Reading -/

namespace Expression

mutual

/-- An operand at the start of some tokens, and what follows it. The number bounds the depth and the breadth. -/
def operand? : Nat → List String → Option (Expression Nat × List String)
  | _, "''" :: ts => some (.text "", ts)
  | _, "'" :: s :: "'" :: ts => some (.text s, ts)
  | _, name :: "::" :: "regconfig" :: ts => (placeholder? name.toList).map fun k => (.config k, ts)
  | n + 1, function :: "(" :: ts => do
    let (x, "," :: ts) ← joined? n ts | none
    let (y, ")" :: ts) ← joined? n ts | none
    some (.call function x y, ts)
  | _, name :: ts => if name.toList.all isNameChar then some (.column name, ts) else none
  | _, [] => none

/-- Operands joined from the left, and what follows them. -/
def joined? : Nat → List String → Option (Expression Nat × List String)
  | 0, _ => none
  | n + 1, ts => (operand? n ts).bind fun x => more? n x.1 x.2

/-- The operands that are joined to an expression, one after the other. -/
def more? : Nat → Expression Nat → List String → Option (Expression Nat × List String)
  | n + 1, x, "|" :: "|" :: ts => (operand? n ts).bind fun y => more? n (.call "||" x y.1) y.2
  | _, x, ts => some (x, ts)

end

/-- The expression of some tokens, all of which belong to it. -/
def read? (ts : List String) : Option (Expression Nat) :=
  match joined? ts.length ts with
  | some (x, []) => some x
  | _ => none

end Expression

/-- The events that a condition names. -/
def Target.read? : List String → Option (Target Nat)
  | ["event_id", "=", eventId] => (placeholder? eventId.toList).map .one
  | ["event_id", "IN", "(", "SELECT", "event_id", "FROM", "events", "WHERE", "search_vector", "IS", "NULL", "ORDER",
      "BY", "event_id", "LIMIT", limit, ")"] => (placeholder? limit.toList).map .unindexed
  | _ => none

namespace Update

/-- The update of some tokens. -/
def ofTokens? : List String → Option (Update Nat)
  | "UPDATE" :: "events" :: "SET" :: "search_vector" :: "=" :: ts => do
    let value ← Expression.read? (ts.takeWhile (· != "WHERE"))
    let target ← Target.read? ((ts.dropWhile (· != "WHERE")).drop 1)
    return ⟨value, target⟩
  | _ => none

/-- What a text updates. -/
def read? (s : List Char) : Option (Update Nat) := ofTokens? (tokens s)

end Update

/-! ### Values -/

/-- An expression with its values in the place of their numbers. -/
def Expression.bind? (params : List Param) : Expression Nat → Option (Expression Param)
  | .text s => some (.text s)
  | .column name => some (.column name)
  | .config name => (valueAt? params name).map .config
  | .call function x y => (x.bind? params).bind fun x => (y.bind? params).map fun y => .call function x y

/-- The events that are indexed, with the value in the place of its number. -/
def Target.bind? (params : List Param) : Target Nat → Option (Target Param)
  | .one eventId => (valueAt? params eventId).map .one
  | .unindexed limit => (valueAt? params limit).map .unindexed

/-- An update with its values in the place of their numbers. -/
def Update.bind? (params : List Param) (u : Update Nat) : Option (Update Param) :=
  (u.value.bind? params).bind fun value => (u.target.bind? params).map fun target => ⟨value, target⟩

/-- How a database makes vectors of the type `ν`: of a text under a configuration, from a vector by giving it a
    weight, and from two vectors. -/
structure Indexer (ν : Type) where
  vector : String → String → ν
  weigh : String → ν → ν
  join : ν → ν → ν

variable {ν : Type}

/-- The first value, or the second one where the first is missing. Both are of one type. -/
def Datum.coalesce? : Datum ν → Datum ν → Option (Datum ν)
  | .cell .null, .cell y => some (.cell y)
  | .cell x, .cell _ => some (.cell x)
  | .vector x, .vector y => some (.vector (x.or y))
  | _, _ => none

/-- What a function makes of its arguments, none if their types do not agree. -/
def Indexer.call? (ix : Indexer ν) : String → Datum ν → Datum ν → Option (Datum ν)
  | "COALESCE", x, y => x.coalesce? y
  | "to_tsvector", .cell (.text config), .cell (.text s) => some (.vector (some (ix.vector config s)))
  | "to_tsvector", .cell (.text _), .cell .null => some (.vector none)
  | "setweight", .vector v, .cell (.text weight) => some (.vector (v.map (ix.weigh weight)))
  | "||", .vector v, .vector w => some (.vector (v.bind fun v => w.map (ix.join v)))
  | _, _, _ => none

/-- The value of an expression in a row, none if its types do not agree. -/
def Expression.datum? (ix : Indexer ν) (column? : String → Option (Datum ν)) : Expression Param → Option (Datum ν)
  | .text s => some (.cell (.text s))
  | .column name => column? name
  | .config (.text name) => some (.cell (.text name))
  | .config _ => none
  | .call function x y =>
    (x.datum? ix column?).bind fun x => (y.datum? ix column?).bind fun y => ix.call? function x y

/-- The vector, null or not, that an expression gives in a row. -/
def Expression.vector? (ix : Indexer ν) (column? : String → Option (Datum ν)) (x : Expression Param) :
    Option (Option ν) :=
  (x.datum? ix column?).bind fun
    | .vector v => some v
    | .cell _ => none

end Lookout.Sql
