import Lookout.Binary64
import Lookout.Time.Instant

/-! What a database answers to a statement, and how the rows of an answer are read. -/

namespace Lookout.Sql

/-- A value in a row. Timestamps are microseconds since 1970. -/
inductive Cell where
  | null
  | bool (b : Bool)
  | int (i : Int)
  | float (x : Binary64)
  | text (s : String)
  deriving Repr, DecidableEq

/-- A row: the values of its columns by name. A column that is not there is null. -/
abbrev Row := List (String × Cell)

/-- The answer to a statement. -/
inductive Reply where
  | rows (rs : List Row)
  | affected (n : UInt64)
  | failed (message : String)
  deriving Repr, DecidableEq

/-- A column in a message: by its name, or by its place if it is the only one that is read. -/
inductive Column where
  | named (name : String)
  | first
  deriving Repr, DecidableEq

/-- Why a statement gives no value. -/
inductive Failure where
  /-- The database refuses the connection or the statement. -/
  | refused (message : String)
  /-- The database takes no connection for now. -/
  | unavailable (message : String)
  /-- The database took no connection for so long that none is tried any more. -/
  | timedOut
  /-- A row is wanted and none is there. -/
  | noRow
  /-- A column is null that may not be. -/
  | unexpectedNull (column : Column)
  /-- A column holds a value of another type. -/
  | mismatchedType (column : Column)
  /-- The address of the database cannot be read. -/
  | badAddress
  deriving Repr, DecidableEq

/-- A column in a message. -/
def Column.text : Column → String
  | .named name => "\"" ++ name ++ "\""
  | .first => "0"

/-- The text of a failure. -/
def Failure.message : Failure → String
  | .refused m => "error returned from database: " ++ m
  | .unavailable m => "error returned from database: " ++ m
  | .timedOut => "pool timed out while waiting for an open connection"
  | .noRow => "no rows returned by a query that expected to return at least one row"
  | .unexpectedNull c =>
    "error occurred while decoding column " ++ c.text ++ ": unexpected null; try decoding as an `Option`"
  | .mismatchedType c => "error occurred while decoding column " ++ c.text ++ ": mismatched types"
  | .badAddress => "error with configuration"

/-- The codes of refusals that do not last: as many connections are open as may be, and the database is
    starting. -/
def passingCodes : List String := ["53300", "57P03"]

/-- The failure of an attempt to connect that is refused with a code. -/
def Failure.ofRefusal (code message : String) : Failure :=
  if passingCodes.contains code then .unavailable message else .refused message

namespace Reply

/-- The number of rows that a statement changed. -/
def executed : Reply → Except Failure UInt64
  | .rows _ => .ok 0
  | .affected n => .ok n
  | .failed m => .error (.refused m)

/-- The rows that a statement returned. -/
def allRows : Reply → Except Failure (List Row)
  | .rows rs => .ok rs
  | .affected _ => .ok []
  | .failed m => .error (.refused m)

/-- The first row, if there is one. -/
def firstRow? (r : Reply) : Except Failure (Option Row) := r.allRows.map List.head?

/-- The first row. -/
def firstRow (r : Reply) : Except Failure Row :=
  r.allRows.bind fun
    | row :: _ => .ok row
    | [] => .error .noRow

end Reply

/-! ### Reading a row -/

namespace Cell

/-- The reading of a cell that may not be null. -/
def required {α : Type} (column : Column) (read : Cell → Option α) : Cell → Except Failure α
  | .null => .error (.unexpectedNull column)
  | c => ((read c).map Except.ok).getD (.error (.mismatchedType column))

/-- The reading of a cell that may be null. -/
def nullable {α : Type} (column : Column) (read : Cell → Option α) : Cell → Except Failure (Option α)
  | .null => .ok none
  | c => ((read c).map fun a => Except.ok (some a)).getD (.error (.mismatchedType column))

def text? : Cell → Option String
  | .text s => some s
  | _ => none

def bool? : Cell → Option Bool
  | .bool b => some b
  | _ => none

def int64? : Cell → Option Int64
  | .int i => some (Int64.ofInt i)
  | _ => none

def int32? : Cell → Option Int32
  | .int i => some (Int32.ofInt i)
  | _ => none

def instant? : Cell → Option Time.Instant
  | .int i => some (.ofMicros i)
  | _ => none

def float? : Cell → Option Binary64
  | .float x => some x
  | _ => none

end Cell

namespace Row

/-- The value of a column. -/
def cell (row : Row) (name : String) : Cell := (row.lookup name).getD .null

/-- A column that may not be null. -/
def required {α : Type} (row : Row) (name : String) (read : Cell → Option α) : Except Failure α :=
  (row.cell name).required (.named name) read

/-- A column that may be null. -/
def nullable {α : Type} (row : Row) (name : String) (read : Cell → Option α) : Except Failure (Option α) :=
  (row.cell name).nullable (.named name) read

/-- The one column of a row that is read. -/
def only {α : Type} (row : Row) (name : String) (read : Cell → Option α) : Except Failure α :=
  (row.cell name).required .first read

end Row
end Lookout.Sql
