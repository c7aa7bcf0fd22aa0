import Lookout.Proofs.Sql.Formula

/-! Statements about whole databases, read: those that make one or drop one, and the one that ends the other sessions of
    one. The name of a database stands in quotes in such a statement, or is bound to it. -/

namespace Lookout.Sql

/-- What a statement does to a database as a whole. -/
inductive Upkeep where
  | create (database : String)
  /-- Nothing is dropped if there is no such database. -/
  | drop (database : String)
  /-- All sessions of the database are ended, apart from the one that asks for it. -/
  | disconnect (database : String)
  deriving Repr, DecidableEq

/-! ### Names in quotes -/

/-- The rest of a name in quotes, up to the last one. A quote in a name is written twice. -/
def closedName? : List Char → Option (List Char)
  | [] => none
  | c :: cs =>
    if c = '"' then
      match cs with
      | [] => some []
      | '"' :: cs => (closedName? cs).map ('"' :: ·)
      | _ => none
    else (closedName? cs).map (c :: ·)

/-- The name that a text in quotes stands for. No name is empty. -/
def identifier? : List Char → Option String
  | '"' :: cs => (closedName? cs).bind fun name => if name = [] then none else some (String.ofList name)
  | _ => none

theorem closedName?_append {cs : List Char} (h : '"' ∉ cs) : closedName? (cs ++ ['"']) = some cs := by
  induction cs with
  | nil => rfl
  | cons c cs ih =>
    have hc : c ≠ '"' := (List.ne_of_not_mem_cons h).symm
    rw [List.cons_append, closedName?.eq_def]
    simp only [if_neg hc, ih (List.not_mem_of_not_mem_cons h), Option.map_some]

/-- A name without quotes is read as it is. -/
theorem identifier?_quoted {name : String} (hquote : '"' ∉ name.toList) (hne : name ≠ "") :
    identifier? ('"' :: (name.toList ++ ['"'])) = some name := by
  have hchars : name.toList ≠ [] := fun h => hne (String.toList_eq_nil_iff.mp h)
  rw [identifier?, closedName?_append hquote, Option.bind_some, if_neg hchars, String.ofList_toList]

/-! ### Statements -/

namespace Upkeep

/-- What the words of a statement and the text from its first quote on say, with its values. -/
def read? (params : List Param) : List String → List Char → Option Upkeep
  | ["CREATE", "DATABASE"], name => (identifier? name).map .create
  | ["DROP", "DATABASE", "IF", "EXISTS"], name => (identifier? name).map .drop
  | ["SELECT", "pg_terminate_backend", "(", "pid", ")", "FROM", "pg_stat_activity", "WHERE", "datname", "=", value,
      "AND", "pid", "<>", "pg_backend_pid", "(", ")"], [] =>
    match (placeholder? value.toList).bind (valueAt? params) with
    | some (.text name) => some (.disconnect name)
    | _ => none
  | _, _ => none

variable {params : List Param} {s : List Char}

theorem read?_create : read? params ["CREATE", "DATABASE"] s = (identifier? s).map .create := rfl

theorem read?_drop : read? params ["DROP", "DATABASE", "IF", "EXISTS"] s = (identifier? s).map .drop := rfl

end Upkeep

/-- What a statement does to a database as a whole, read in its text and with its values. -/
def Statement.upkeep? (s : Statement) : Option Upkeep :=
  Upkeep.read? s.params (tokens (s.sql.toList.takeWhile (· != '"'))) (s.sql.toList.dropWhile (· != '"'))

/-- The words and the name of a statement that ends with a name in quotes. -/
theorem Statement.upkeep?_quoted {words name : String} {params : List Param} (h : '"' ∉ words.toList) :
    Statement.upkeep? ⟨words ++ ("\"" ++ name ++ "\""), params⟩ =
      Upkeep.read? params (tokens words.toList) ('"' :: (name.toList ++ ['"'])) := by
  have hsplit : (words ++ ("\"" ++ name ++ "\"")).toList = words.toList ++ '"' :: (name.toList ++ ['"']) := by
    simp
  have hwords : ∀ c ∈ words.toList, (c != '"') = true := fun c hc => bne_iff_ne.mpr fun hq => h (hq ▸ hc)
  rw [upkeep?, hsplit, List.takeWhile_append_of_pos hwords, List.dropWhile_append_of_pos hwords]
  simp

end Lookout.Sql
