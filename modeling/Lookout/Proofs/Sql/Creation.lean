import Lookout.Proofs.Sql.Command

/-! Statements that create tables and indexes, read. Such a statement is read to its end or not at all, so one that was
    cut off somewhere creates nothing. -/

namespace Lookout.Sql

/-- The value of a column for which none is given. -/
inductive DefaultValue where
  | constant (name : String)
  | call (function : String)
  deriving Repr, DecidableEq

/-- What is said of a column behind its type. -/
inductive ColumnRule where
  | primaryKey
  | nullable
  | notNull
  | default (value : DefaultValue)
  /-- The value stands in a column of another table. A row goes when the row goes to which it refers. -/
  | references (table column : String)
  deriving Repr, DecidableEq

/-- A column of a table that is created. -/
structure ColumnDefinition where
  name : String
  type : String
  rules : List ColumnRule
  deriving Repr, DecidableEq

/-- A column by which an index is ordered. -/
structure IndexKey where
  column : String
  descending : Bool
  deriving Repr, DecidableEq

/-- An index that is created, on the columns of one table. -/
structure IndexDefinition where
  name : String
  table : String
  method : Option String
  keys : List IndexKey
  /-- The index has only the rows in which this column is null. -/
  missing : Option String
  deriving Repr, DecidableEq

/-- What is created unless something has its name. -/
inductive Creation where
  | table (name : String) (columns : List ColumnDefinition)
  | index (i : IndexDefinition)
  deriving Repr, DecidableEq

/-! ### Reading -/

/-- The name that a token is, which starts with a letter. -/
def name? (t : String) : Option String :=
  if t.toList.head?.any Char.isAlpha && t.toList.all isNameChar then some t else none

/-- All that is said of a column. Each rule has tokens of its own, and none is passed over. -/
def ColumnRule.readAll? : List String → Option (List ColumnRule)
  | [] => some []
  | "PRIMARY" :: "KEY" :: ts => (readAll? ts).map (.primaryKey :: ·)
  | "NULL" :: ts => (readAll? ts).map (.nullable :: ·)
  | "NOT" :: "NULL" :: ts => (readAll? ts).map (.notNull :: ·)
  | "DEFAULT" :: function :: "(" :: ")" :: ts => do
    return .default (.call (← name? function)) :: (← readAll? ts)
  | "DEFAULT" :: name :: ts => do
    return .default (.constant (← name? name)) :: (← readAll? ts)
  | "REFERENCES" :: table :: "(" :: column :: ")" :: "ON" :: "DELETE" :: "CASCADE" :: ts => do
    return .references (← name? table) (← name? column) :: (← readAll? ts)
  | _ => none

/-- A column, from the tokens between two commas. -/
def ColumnDefinition.read? : List String → Option ColumnDefinition
  | name :: type :: ts => do return ⟨← name? name, ← name? type, ← ColumnRule.readAll? ts⟩
  | _ => none

/-- A key of an index, from the tokens between two commas. -/
def IndexKey.read? : List String → Option IndexKey
  | [column] => (name? column).map (⟨·, false⟩)
  | [column, "DESC"] => (name? column).map (⟨·, true⟩)
  | _ => none

namespace IndexDefinition

/-- The rest of a statement, from the keys on. -/
def ofKeys? (name table : String) (method : Option String) (ts : List String) : Option IndexDefinition := do
  let (keys, ts) ← enclosed? ts
  let keys ← keys.mapM IndexKey.read?
  match ts with
  | [] => return ⟨name, table, method, keys, none⟩
  | ["WHERE", column, "IS", "NULL"] => return ⟨name, table, method, keys, some (← name? column)⟩
  | _ => none

/-- The index of some tokens, from its name on. -/
def read? : List String → Option IndexDefinition
  | name :: "ON" :: table :: "USING" :: method :: ts => do
    ofKeys? (← name? name) (← name? table) (some (← name? method)) ts
  | name :: "ON" :: table :: ts => do ofKeys? (← name? name) (← name? table) none ts
  | _ => none

end IndexDefinition

namespace Creation

/-- The name of a table, and its columns in parentheses. -/
def table? : List String → Option Creation
  | name :: "(" :: ts => do
    let name ← name? name
    if ts.getLast? = some ")" then
      let columns ← (Text.cut (· == ",") ts.dropLast).mapM ColumnDefinition.read?
      return .table name columns
    else none
  | _ => none

/-- The creation of some tokens. -/
def ofTokens? : List String → Option Creation
  | "CREATE" :: "TABLE" :: "IF" :: "NOT" :: "EXISTS" :: ts => table? ts
  | "CREATE" :: "INDEX" :: "IF" :: "NOT" :: "EXISTS" :: ts => (IndexDefinition.read? ts).map .index
  | _ => none

/-- What a text creates, if it is such a statement from its start to its end. -/
def read? (s : List Char) : Option Creation := ofTokens? (tokens s)

/-- The name of what is created. -/
def name : Creation → String
  | .table name _ => name
  | .index i => i.name

end Creation
end Lookout.Sql
