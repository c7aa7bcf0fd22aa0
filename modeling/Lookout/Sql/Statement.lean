import Lookout.Binary64
import Lookout.Text.Digits

/-! SQL statements with bound values. A statement is put together from pieces of text and values; the values
    are numbered as they come, and the text holds the number of each value in its place. So no value can
    become text. -/

namespace Lookout.Sql

/-- The types of bound values. -/
inductive ParamType where
  | text
  | int8
  | int4
  | bool
  | float8
  | timestamptz
  | textArray
  deriving Repr, DecidableEq

/-- The name of a type. -/
def ParamType.name : ParamType → String
  | .text => "text"
  | .int8 => "int8"
  | .int4 => "int4"
  | .bool => "bool"
  | .float8 => "float8"
  | .timestamptz => "timestamptz"
  | .textArray => "text[]"

/-- A value that is bound to a statement. Timestamps are microseconds since 1970. -/
inductive Param where
  | null (type : ParamType)
  | text (s : String)
  | int8 (i : Int64)
  | int4 (i : Int32)
  | bool (b : Bool)
  | float8 (x : Binary64)
  | timestamptz (micros : Int)
  | textArray (xs : List String)
  deriving Repr, DecidableEq

namespace Param

/-- The type of a value. -/
def type : Param → ParamType
  | .null t => t
  | .text _ => .text
  | .int8 _ => .int8
  | .int4 _ => .int4
  | .bool _ => .bool
  | .float8 _ => .float8
  | .timestamptz _ => .timestamptz
  | .textArray _ => .textArray

/-- A text that may be absent. -/
def ofText? (s : Option String) : Param := s.elim (.null .text) .text

end Param

/-- A statement as it is sent. -/
structure Statement where
  sql : String
  params : List Param
  deriving Repr, DecidableEq

/-- A part of a statement: text as it stands, or a value. -/
inductive Piece where
  | raw (s : String)
  | value (p : Param)
  deriving Repr, DecidableEq

/-- The text of pieces, whose first value has the number `n`. -/
def renderFrom (n : Nat) : List Piece → List Char
  | [] => []
  | .raw s :: rest => s.toList ++ renderFrom n rest
  | .value _ :: rest => '$' :: Text.decimal n ++ renderFrom (n + 1) rest

/-- The values of pieces, in order. -/
def valuesOf (pieces : List Piece) : List Param :=
  pieces.filterMap fun
    | .raw _ => none
    | .value p => some p

/-- The statement that pieces make. -/
def Statement.ofPieces (pieces : List Piece) : Statement := ⟨String.ofList (renderFrom 1 pieces), valuesOf pieces⟩

@[simp] theorem valuesOf_append (xs ys : List Piece) : valuesOf (xs ++ ys) = valuesOf xs ++ valuesOf ys :=
  List.filterMap_append ..

/-- The numbers go on behind the values of the first part. -/
theorem renderFrom_append (n : Nat) (xs ys : List Piece) :
    renderFrom n (xs ++ ys) = renderFrom n xs ++ renderFrom (n + (valuesOf xs).length) ys := by
  induction xs generalizing n with
  | nil => simp [renderFrom, valuesOf]
  | cons x xs ih =>
    cases x with
    | raw s => simp [renderFrom, ih, valuesOf]
    | value p => simp [renderFrom, ih, valuesOf, Nat.add_comm 1, Nat.add_assoc]

/-- The pieces of a list of groups, with `separator` between any two. -/
def separated (separator : String) : List (List Piece) → List Piece
  | [] => []
  | [group] => group
  | group :: rest => group ++ .raw separator :: separated separator rest

/-- Columns in a list, each on a line of its own. -/
def columnList (names : List String) : String := String.intercalate ",\n\t" names

end Lookout.Sql
