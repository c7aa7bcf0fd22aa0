import Lookout.Binary64

/-! TOML values, and how tables grow while a document is read. A table knows how it came to be, for that
    decides which later lines may add to it. -/

namespace Lookout.Toml

/-- A key, without its quotes. -/
abbrev Key := List Char

/-- How a table came to be. -/
inductive TableKind where
  /-- It has a header of its own, or is the document. -/
  | header
  /-- A header below it names it. -/
  | implicit
  /-- A dotted key names it. -/
  | dotted
  /-- It is written in braces, as a value. -/
  | inline
  deriving Repr, DecidableEq

/-- How a table counts after a path went through it. A dotted key makes a table its own if only headers below
    it have named it. -/
def TableKind.passed (dotted : Bool) : TableKind → TableKind
  | .implicit => if dotted then .dotted else .implicit
  | kind => kind

/-- A TOML value. -/
inductive Value where
  | string (s : List Char)
  | integer (i : Int)
  | float (x : Binary64)
  /-- A number that no reader can take: it is too large, or no number at all. -/
  | excess
  | boolean (b : Bool)
  | datetime (text : List Char)
  | array (items : List Value)
  /-- The tables of one repeated header. -/
  | tables (items : List (List (Key × Value)))
  | table (kind : TableKind) (entries : List (Key × Value))
  deriving Repr

/-- The entries of a table, in the order in which they came. -/
abbrev Entries := List (Key × Value)

namespace Entries

/-- The entries with another value for a key that is among them. -/
def replace (es : Entries) (k : Key) (v : Value) : Entries := es.map fun e => if e.1 = k then (k, v) else e

/-- The entries with `k` set, which may be among them. -/
def set (es : Entries) (k : Key) (v : Value) : Entries :=
  if es.any (·.1 == k) then es.replace k v else es ++ [(k, v)]

/-- Change the table at the end of a path. Tables that are not there come to be on the way. A path goes through
    the last table of a repeated header. It does not go through a table in braces, and that of a dotted key
    not through a table with a header. -/
def change (dotted : Bool) (f : TableKind → Entries → Option Entries) :
    List Key → TableKind → Entries → Option Entries
  | [], kind, es => f kind es
  | k :: path, _, es =>
    match es.lookup k with
    | none => do
      let kind := if dotted then .dotted else .implicit
      let child ← change dotted f path kind []
      some (es ++ [(k, .table kind child)])
    | some (.table kind child) =>
      if kind = .inline ∨ (dotted ∧ kind = .header) then none
      else do
        let child ← change dotted f path (kind.passed dotted) child
        some (es.replace k (.table (kind.passed dotted) child))
    | some (.tables items) => do
      let last ← items.getLast?
      let last ← change dotted f path .header last
      some (es.replace k (.tables (items.dropLast ++ [last])))
    | some _ => none

/-- Add an entry that is not there yet. The keys before the last one name a table. -/
def put (kind : TableKind) (path : List Key) (k : Key) (v : Value) (es : Entries) : Option Entries :=
  let dotted := !path.isEmpty
  let add (kind : TableKind) (es : Entries) : Option Entries :=
    if (kind = .dotted) = dotted ∧ (es.lookup k).isNone then some (es ++ [(k, v)]) else none
  change dotted add path kind es

end Entries

/-! ### Soundness of skipped values -/

mutual

/-- The value holds no number that no reader can take. -/
def Value.isSound : Value → Bool
  | .excess => false
  | .array items => Value.allSound items
  | .tables items => Value.allTablesSound items
  | .table _ entries => Value.allEntriesSound entries
  | _ => true

def Value.allSound : List Value → Bool
  | [] => true
  | v :: vs => v.isSound && Value.allSound vs

def Value.allEntriesSound : List (Key × Value) → Bool
  | [] => true
  | (_, v) :: rest => v.isSound && Value.allEntriesSound rest

def Value.allTablesSound : List (List (Key × Value)) → Bool
  | [] => true
  | es :: rest => Value.allEntriesSound es && Value.allTablesSound rest

end

end Lookout.Toml
