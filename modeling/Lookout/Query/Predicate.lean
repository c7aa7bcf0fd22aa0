import Lookout.Query.Term

/-! The predicate of a query: its terms, joined in the notation of the text index. There `&` binds tighter
    than `|`, so a run of terms that OR joins stands in parentheses unless it is the whole predicate. -/

namespace Lookout.Query

/-- How the text index is to read what it is given. -/
inductive MatchMode where
  /-- The predicate with its operators. -/
  | explicitBoolean
  /-- The text as the user wrote it. -/
  | implicitText
  deriving Repr, DecidableEq

namespace MatchMode

/-- The name of a mode. -/
def name : MatchMode → String
  | .explicitBoolean => "explicit_boolean"
  | .implicitText => "implicit_text"

/-- The mode of a name. -/
def ofName? (s : String) : Option MatchMode :=
  if s = "explicit_boolean" then some .explicitBoolean
  else if s = "implicit_text" then some .implicitText
  else none

theorem ofName?_name (m : MatchMode) : ofName? m.name = some m := by
  cases m <;> simp [ofName?, name]

/-- The text uses an operator of the text index. -/
def hasOperator (predicate : List Char) : Bool :=
  Text.contains "<->".toList predicate || predicate.any fun c => c == '&' || c == '|' || c == '!'

/-- A predicate with an operator is to be read as it stands. -/
def ofPredicate (predicate : List Char) : MatchMode :=
  if hasOperator predicate then .explicitBoolean else .implicitText

end MatchMode

/-- The members in runs: an OR mark keeps a member and the next in one run. -/
def runs {α : Type} : List (Linked α) → List (List α)
  | [] => []
  | [x] => [[x.item]]
  | x :: y :: rest =>
    if x.orNext then (runs (y :: rest)).modifyHead (x.item :: ·) else [x.item] :: runs (y :: rest)

/-- A run beside others. -/
def runText : List (List Char) → List Char
  | [single] => single
  | members => '(' :: List.intercalate " | ".toList members ++ [')']

/-- The texts joined as their marks say. -/
def join (clauses : List (Linked (List Char))) : List Char :=
  match runs clauses with
  | [members] => List.intercalate " | ".toList members
  | groups => List.intercalate " & ".toList (groups.map runText)

/-- A query, read. -/
structure Predicate where
  terms : List (Linked Term)
  deriving Repr, DecidableEq

namespace Predicate

/-- The predicate of a query. Every text has one: what is malformed is dropped. -/
def ofQuery (raw : List Char) : Predicate := ⟨(Outline.ofQuery raw).terms⟩

/-- The predicate in the notation of the text index. -/
def text (p : Predicate) : List Char := join (p.terms.map (·.map Term.text))

/-- The number of terms. -/
def termCount (p : Predicate) : Nat := p.terms.length

/-- The query has no usable term, and so does not constrain the text. -/
def isEmpty (p : Predicate) : Bool := p.text.isEmpty

/-- How the text index is to read the query. -/
def mode (p : Predicate) : MatchMode := .ofPredicate p.text

end Predicate
end Lookout.Query
