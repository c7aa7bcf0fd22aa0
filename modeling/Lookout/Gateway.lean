import Lookout.Json.Record
import Lookout.Json.Value
import Lookout.Sql.Reply
import Lookout.Sql.Statement

/-! How the program speaks to the database: with a gateway, in lines of JSON. Each line it writes asks for one
    thing, and the line it then reads is the answer. Timestamps are microseconds since 1970. In an answer a
    number with a fraction or an exponent is a float, and any other is an integer. -/

namespace Lookout.Gateway

open Json (Value Tree)

/-- What a line asks for. -/
inductive Request where
  | connect (address : String)
  | send (s : Sql.Statement)
  deriving Repr, DecidableEq

/-- The value of a parameter. -/
def paramValue : Sql.Param → Value
  | .null _ => .null
  | .text s => .ofString s
  | .int8 i => .ofInt64 i
  | .int4 i => .ofInt64 i.toInt64
  | .bool b => .bool b
  | .float8 x => .number (.float x)
  | .timestamptz micros => .ofInt64 (Int64.ofInt micros)
  | .textArray xs => .array (xs.map .ofString)

/-- A parameter with its type. -/
def paramJson (p : Sql.Param) : Value := .ofFields [("type", .ofString p.type.name), ("value", paramValue p)]

def Request.toJson : Request → Value
  | .connect address => .ofFields [("connect", .ofString address)]
  | .send s => .ofFields [("sql", .ofString s.sql), ("params", .array (s.params.map paramJson))]

/-- The line of a request, without its end. -/
def Request.line (r : Request) : List Char := r.toJson.compact

/-! ### Answers -/

/-- The value of a column. -/
def cell? : Tree → Option Sql.Cell
  | .null => some .null
  | .bool b => some (.bool b)
  | .number n => n.number?.map fun
    | .float x => .float x
    | .natural i => .int i.toNat
    | .negative i => .int i.toInt
  | .string s => (Tree.text? (.string s)).map .text
  | _ => none

/-- A row, from an object with the columns as its fields. -/
def row? : Tree → Option Sql.Row
  | .object fields => (Tree.keyed? fields).bind fun fields =>
    fields.mapM fun (k, t) => (cell? t).map fun c => (String.ofList k, c)
  | _ => none

/-- The answer to a statement: its rows, the number of rows that it changed, or an error. -/
def reply? (s : List Char) : Option Sql.Reply := do
  match ← (← Tree.ofText? s).record? ["rows", "affected", "error"] false with
  | [rows, affected, error] =>
    let rows ← Tree.optional? (Tree.list? row?) rows
    let affected ← Tree.optional? Tree.uint64? affected
    let error ← Tree.optional? Tree.text? error
    some ((error.map .failed).getD ((affected.map .affected).getD (.rows (rows.getD []))))
  | _ => none

/-- What is wrong with a line that is no answer. -/
def notUnderstood : String := "the gateway gave no answer that can be read"

/-- The answer of a line; one that cannot be read counts as an error. -/
def reply (s : List Char) : Sql.Reply := (reply? s).getD (.failed notUnderstood)

/-- The answer to an attempt to connect: an error, maybe with its code, or none. -/
def refusal? (s : List Char) : Option (Option Sql.Failure) := do
  match ← (← Tree.ofText? s).record? ["error", "code"] false with
  | [error, code] =>
    let error ← Tree.optional? Tree.text? error
    let code ← Tree.optional? Tree.text? code
    some (error.map (.ofRefusal (code.getD "")))
  | _ => none

/-- Why a connection is refused, according to the answer of a line. -/
def refusal (s : List Char) : Option Sql.Failure := (refusal? s).getD (some (.refused notUnderstood))

end Lookout.Gateway
