import Lookout.Proofs.Sql.Update
import Mathlib.Data.List.Nodup

/-! Statements about one table, read: those that record a row, those that look rows up by one of their columns, and
    those that index events. A value goes into the column that has its place in the list of columns. -/

namespace Lookout.Sql

/-- What stands behind the values of a new row. -/
inductive Ending where
  | plain
  | returning (column : String)
  /-- The row that has this key already takes one column from the new row instead. -/
  | updating (key column excluded : String)
  deriving Repr, DecidableEq

/-- A new row: its values by their columns, and what stands behind them. -/
structure Insert (β : Type) where
  table : String
  given : List (String × β)
  ending : Ending
  deriving Repr, DecidableEq

/-- What is returned of a row. -/
inductive Returned where
  | column (name : String)
  /-- Whether a column holds anything, under this name. -/
  | isNotNull (tested name : String)
  deriving Repr, DecidableEq

/-- The rows in which the key has a value. -/
structure Lookup (β : Type) where
  returned : List Returned
  table : String
  key : String
  value : β
  deriving Repr, DecidableEq

/-- What a statement does with the rows of one table. -/
inductive Command (β : Type) where
  | insert (i : Insert β)
  | lookup (l : Lookup β)
  | update (u : Update β)
  deriving Repr, DecidableEq

/-! ### Reading -/

/-- The token, if there is just one. -/
def word? : List String → Option String
  | [t] => some t
  | _ => none

/-- The list in parentheses at the start of some tokens, cut at its commas, and what follows it. -/
def enclosed? : List String → Option (List (List String) × List String)
  | "(" :: ts => some (Text.cut (· == ",") (ts.takeWhile (· != ")")), (ts.dropWhile (· != ")")).drop 1)
  | _ => none

/-- The ending of a statement that inserts a row. -/
def Ending.read? : List String → Option Ending
  | [] => some .plain
  | ["RETURNING", column] => some (.returning column)
  | ["ON", "CONFLICT", "(", key, ")", "DO", "UPDATE", "SET", column, "=", source] =>
    ("EXCLUDED.".toList.isPrefixOf? source.toList).map fun excluded => .updating key column (String.ofList excluded)
  | _ => none

/-- The new row of some tokens. As many values are given as columns are named. -/
def Insert.ofTokens? : List String → Option (Insert Nat)
  | "INSERT" :: "INTO" :: table :: ts => do
    let (columns, "VALUES" :: ts) ← enclosed? ts | none
    let (values, ts) ← enclosed? ts
    let columns ← columns.mapM word?
    let values ← values.mapM fun v => (word? v).bind fun t => placeholder? t.toList
    if columns.length = values.length then some ⟨table, columns.zip values, ← Ending.read? ts⟩ else none
  | _ => none

/-- What is returned, from the tokens between two commas. -/
def Returned.read? : List String → Option Returned
  | [name] => some (.column name)
  | [tested, "IS", "NOT", "NULL", "AS", name] => some (.isNotNull tested name)
  | _ => none

/-- The lookup of some tokens. -/
def Lookup.ofTokens? : List String → Option (Lookup Nat)
  | "SELECT" :: ts => do
    let returned ← (Text.cut (· == ",") (ts.takeWhile (· != "FROM"))).mapM Returned.read?
    match ts.dropWhile (· != "FROM") with
    | ["FROM", table, "WHERE", key, "=", value] => return ⟨returned, table, key, ← placeholder? value.toList⟩
    | _ => none
  | _ => none

/-- The command of some tokens, told by the first one. -/
def Command.ofTokens? (ts : List String) : Option (Command Nat) :=
  match ts.head? with
  | some "INSERT" => (Insert.ofTokens? ts).map .insert
  | some "SELECT" => (Lookup.ofTokens? ts).map .lookup
  | _ => (Update.ofTokens? ts).map .update

/-- A command with its values in the place of their numbers. -/
def Command.bind? (params : List Param) : Command Nat → Option (Command Param)
  | .insert i =>
    (i.given.mapM fun c => (valueAt? params c.2).map (c.1, ·)).map fun given => .insert ⟨i.table, given, i.ending⟩
  | .lookup l => (valueAt? params l.value).map fun value => .lookup ⟨l.returned, l.table, l.key, value⟩
  | .update u => (u.bind? params).map .update

/-- What a statement says, with its values. -/
def Statement.command? (s : Statement) : Option (Command Param) :=
  (Command.ofTokens? (tokens s.sql.toList)).bind (·.bind? s.params)

variable {ν : Type}

/-- The columns of a row, by their names. -/
abbrev Columns (ν : Type) := String → Option (Datum ν)

/-- What a column holds of a bound value. No column holds a list. -/
def Param.cell? : Param → Option Cell
  | .null _ => some .null
  | .text s => some (.text s)
  | .int8 i => some (.int i.toInt)
  | .int4 i => some (.int i.toInt)
  | .bool b => some (.bool b)
  | .float8 x => some (.float x)
  | .timestamptz micros => some (.int micros)
  | .textArray _ => none

namespace Columns

/-- The row with these values, which are given for some of its columns. -/
def assign (row : Columns ν) (given : List (String × Param)) : Columns ν := fun column =>
  (given.lookup column).elim (row column) fun p => p.cell?.map .cell

/-- The column equals the value. Null equals nothing. -/
def has (row : Columns ν) (key : String) (p : Param) : Bool :=
  match row key, p.cell? with
  | some (.cell c), some d => c != .null && c == d
  | _, _ => false

/-- What a row holds of what is returned, with its name. -/
def cell? (row : Columns ν) : Returned → Option (String × Cell)
  | .column name =>
    (row name).bind fun
      | .cell c => some (name, c)
      | .vector _ => none
  | .isNotNull tested name => (row tested).map fun d => (name, .bool !d.isNull)

/-- The row as it is returned. -/
def returned? (row : Columns ν) (columns : List Returned) : Option Row := columns.mapM row.cell?

end Columns

/-- The rows that a lookup returns. -/
def Lookup.rows? {ρ : Type} (l : Lookup Param) (columns : ρ → Columns ν) (table : List ρ) : Option (List Row) :=
  (table.filter fun row => (columns row).has l.key l.value).mapM fun row => (columns row).returned? l.returned

/-! ### Rows by their keys -/

section
variable {ρ κ : Type} [DecidableEq κ] {key : ρ → κ} {table : List ρ}

theorem find?_eq_some_iff_of_nodup (h : (table.map key).Nodup) {k : κ} {row : ρ} :
    (table.find? fun r => decide (key r = k)) = some row ↔ row ∈ table ∧ key row = k := by
  constructor
  · intro hfind
    exact ⟨List.mem_of_find?_eq_some hfind, by simpa using List.find?_some hfind⟩
  · rintro ⟨hrow, rfl⟩
    obtain ⟨other, hfind⟩ : ∃ other, (table.find? fun r => decide (key r = key row)) = some other :=
      Option.isSome_iff_exists.mp (List.find?_isSome.mpr ⟨row, hrow, by simp⟩)
    have hkey : key other = key row := by simpa using List.find?_some hfind
    rw [hfind, List.inj_on_of_nodup_map h (List.mem_of_find?_eq_some hfind) hrow hkey]

/-- One row at most has a key. -/
theorem filter_eq_toList_find? (h : (table.map key).Nodup) (k : κ) :
    (table.filter fun r => decide (key r = k)) = (table.find? fun r => decide (key r = k)).toList := by
  induction table with
  | nil => rfl
  | cons row rest ih =>
    obtain ⟨hnew, hrest⟩ := List.nodup_cons.mp h
    by_cases hrow : key row = k
    · have hnone : (rest.filter fun r => decide (key r = k)) = [] :=
        List.filter_eq_nil_iff.mpr fun r hr hk =>
          hnew (List.mem_map.mpr ⟨r, hr, (of_decide_eq_true hk).trans hrow.symm⟩)
      simp [hrow, hnone]
    · simp [hrow, ih hrest]

end

end Lookout.Sql
