import Lookout.Proofs.Search.Reading

/-! A database that holds some events. It answers a statement with the number of the events that the condition
    selects, or with those of them that its bounds leave of a list in its order. Events with equal keys may come
    in any order. -/

namespace Lookout.Search

open Sql (Formula Param Cell Call Score Output Select Statement Reply)

/-- The events of a database with their cameras. Their number is an integer of 64 bits. -/
structure Database (ν κ : Type) where
  engine : Engine ν κ
  rows : List (EventRow ν)
  distinct : (rows.map EventRow.eventId).Nodup
  countable : rows.length < 9223372036854775808

variable {ν κ : Type}

/-- The place of a number in the order of a database: the zeros share one, and a NaN stands above all others. -/
def floatPlace (x : Binary64) : Int := if x.isNaN then Binary64.infinityMagnitude + 1 else x.rank

/-- The elements of a list that a page shows. -/
def window {α : Type} (limit offset : Nat) (xs : List α) : List α := (xs.drop offset).take limit

namespace Engine

/-- The index query of a source, if it has one. -/
def query? (engine : Engine ν κ) : Option (Call Param) → Option (Option κ)
  | none => some none
  | some ⟨function, .text config, .text text⟩ => some (some (engine.read function config text))
  | some _ => none

/-- The score of an event, when the source has this index query. -/
def score? (engine : Engine ν κ) (tsq : Option κ) (row : EventRow ν) : Score Param → Option Binary64
  | .zero => some .zero
  | .scaled (.float8 scale) => tsq.map fun q => engine.score scale q row.vector
  | .scaled _ => none

end Engine

namespace EventRow

/-- The value of an event under a key of the order. -/
def key? (row : EventRow ν) (score : Binary64) (key : String) : Option Int :=
  if key = "relevance_score" then some (floatPlace score)
  else (row.datum? key).bind fun
    | .cell (.int i) => some i
    | _ => none

/-- The values of an event under all keys of the order. -/
def keys? (row : EventRow ν) (score : Binary64) (order : List String) : Option (List Int) :=
  order.mapM (row.key? score)

/-- A column of an event as it is returned, under the name that it has in a page. -/
def column? (row : EventRow ν) (c : String × String) : Option (String × Cell) :=
  (row.datum? c.1).bind fun
    | .cell cell => some (c.2, cell)
    | .vector _ => none

/-- The row that a page returns of an event: its columns, and the score behind them. -/
def returned? (row : EventRow ν) (score : Binary64) (columns : List (String × String)) : Option Sql.Row :=
  (columns.mapM row.column?).map (· ++ [("relevance_score", .float score)])

end EventRow

namespace Database

/-- The events for which a condition is true. -/
def selected (db : Database ν κ) (tsq : Option κ) (F : Formula Param) : List (EventRow ν) :=
  db.rows.filter fun row => F.truth? (row.scope db.engine tsq) == some (some true)

/-- The order of a list has `a` before `b`, or their keys are equal. -/
def Precedes (score : EventRow ν → Option Binary64) (order : List String) (a b : EventRow ν) : Prop :=
  ∀ x y, ((score a).bind (a.keys? · order)) = some x → ((score b).bind (b.keys? · order)) = some y →
    ¬ x.Lex (· < ·) y

/-- The database may give this reply to the statement, if the types of its parts agree. -/
def Returns (db : Database ν κ) (T : Select Param) (reply : Reply) : Prop :=
  ∀ tsq, db.engine.query? T.call = some tsq →
    (∀ row ∈ db.rows, (T.condition.truth? (row.scope db.engine tsq)).isSome) →
    match T.output with
    | .count => reply = .rows [[("count", .int (db.selected tsq T.condition).length)]]
    | .page columns score order limit offset =>
      ∀ (l o : Int64), limit = .int8 l → offset = .int8 o →
        ∃ listing, listing.Perm (db.selected tsq T.condition) ∧
          listing.Pairwise (Precedes (db.engine.score? tsq · score) order) ∧
          ∀ rows, ((window l.toNatClampNeg o.toNatClampNeg listing).mapM fun row =>
              (db.engine.score? tsq row score).bind (row.returned? · columns)) = some rows →
            reply = .rows rows

/-- The replies are those of the database. Nothing is said about replies to other texts than statements that
    select events. -/
def Answers (db : Database ν κ) (answer : Statement → Reply) : Prop :=
  ∀ s S T, Select.read? s.sql.toList = some S → S.bind? s.params = some T → db.Returns T (answer s)

/-! ### Every database has replies -/

/-- The keys of an event, or none if one of them has no value. -/
def sortKeys (score : EventRow ν → Option Binary64) (order : List String) (row : EventRow ν) : List Int :=
  ((score row).bind (row.keys? · order)).getD []

/-- The events in descending order of their keys. -/
def sorted (score : EventRow ν → Option Binary64) (order : List String) (rows : List (EventRow ν)) :
    List (EventRow ν) :=
  rows.mergeSort fun a b => !decide ((sortKeys score order a).Lex (· < ·) (sortKeys score order b))

theorem sorted_perm (score : EventRow ν → Option Binary64) (order : List String) (rows : List (EventRow ν)) :
    (sorted score order rows).Perm rows :=
  List.mergeSort_perm _ _

theorem sorted_pairwise (score : EventRow ν → Option Binary64) (order : List String) (rows : List (EventRow ν)) :
    (sorted score order rows).Pairwise (Precedes score order) := by
  have hle : ∀ a b : EventRow ν, (!decide ((sortKeys score order a).Lex (· < ·) (sortKeys score order b))) = true ↔
      ¬ (sortKeys score order a).Lex (· < ·) (sortKeys score order b) := by
    intro a b
    rw [Bool.not_eq_true', decide_eq_false_iff_not]
  refine (List.pairwise_mergeSort (fun a b c hab hbc => ?_) (fun a b => ?_) rows).imp fun {a b} hab x y hx hy => ?_
  · rw [hle] at hab hbc ⊢
    exact List.le_trans hbc hab
  · rw [Bool.or_eq_true, hle, hle]
    exact List.le_total _ _
  · have hkeys := (hle a b).mp hab
    simpa only [sortKeys, hx, hy, Option.getD_some] using hkeys

/-- The answer to a statement that has been read, with its values. -/
def reply (db : Database ν κ) (T : Select Param) : Reply :=
  match db.engine.query? T.call, T.output with
  | some tsq, .count => .rows [[("count", .int (db.selected tsq T.condition).length)]]
  | some tsq, .page columns score order (.int8 limit) (.int8 offset) =>
    let listing := sorted (db.engine.score? tsq · score) order (db.selected tsq T.condition)
    let rows := (window limit.toNatClampNeg offset.toNatClampNeg listing).mapM fun row =>
      (db.engine.score? tsq row score).bind (row.returned? · columns)
    (rows.map Reply.rows).getD (.failed "datatype mismatch")
  | _, _ => .failed "datatype mismatch"

/-- The answer to a statement. One that cannot be read fails. -/
def answer (db : Database ν κ) (s : Statement) : Reply :=
  (((Select.read? s.sql.toList).bind (·.bind? s.params)).map db.reply).getD (.failed "syntax error")

theorem returns_reply (db : Database ν κ) (T : Select Param) : db.Returns T (db.reply T) := by
  intro tsq htsq htruth
  obtain ⟨output, call, condition⟩ := T
  cases output with
  | count => simp only [reply, htsq]
  | page columns score order limit offset =>
    rintro l o rfl rfl
    refine ⟨_, sorted_perm _ order _, sorted_pairwise _ _ _, fun rows hrows => ?_⟩
    simp only [reply, htsq, hrows, Option.map_some, Option.getD_some]

theorem answers_answer (db : Database ν κ) : db.Answers db.answer := by
  intro s S T hread hbind
  rw [answer, hread, Option.bind_some, hbind]
  exact db.returns_reply T

end Database

end Lookout.Search
