import Lookout.Proofs.Dialogue.Steps
import Lookout.Service.Search

/-! A search as a dialogue. What it makes of each answer is a function of that answer alone, so the whole search is
    told by two of them: one statement asks for the number of events, and a second one for the page, unless it
    would be empty. -/

namespace Lookout.Service

open Dialogue (Fallible)
open Sql (Cell Reply)

/-- The number of events in an answer to the count. -/
def readTotal (r : Reply) : Except Error UInt64 :=
  match r.firstRow.bind fun row => row.only "count" Cell.int64? with
  | .error e => .error (.sql e)
  | .ok n => if n < 0 then .error (.negativeCount n) else .ok n.toUInt64

/-- The hits in an answer to the page. -/
def readHits (r : Reply) : Except Error (List Hit) :=
  match r.allRows.bind fun rows => rows.mapM FoundRow.ofRow with
  | .error e => .error (.sql e)
  | .ok rows => (hitsOfRows rows).mapError .badIdList

/-- The end of a search that succeeds: it is noted, and the hits are returned. -/
def finish (limit offset : UInt32) (total : UInt64) (hits : List Hit) : Dialogue (Except Error Response) :=
  .note (.searched total hits.length limit offset) (.done (.ok ⟨hits, total, limit, offset⟩))

/-- A search from its count on. Nothing is asked for if the page is empty. -/
def afterCount (plan : Search.Plan) (limit offset : UInt32) (total : UInt64) : Dialogue (Except Error Response) :=
  if limit = 0 ∨ total ≤ offset.toUInt64 then finish limit offset total []
  else .send (Search.pageStatement plan limit offset) fun r =>
    match readHits r with
    | .error e => .done (.error e)
    | .ok hits => finish limit offset total hits

theorem run_countMatches (plan : Search.Plan) :
    (countMatches plan).run = .send (Search.countStatement plan) fun r => .done (readTotal r) := by
  unfold countMatches
  rw [Dialogue.run_bind_of_send (Dialogue.run_mapError_ask _ _ _)]
  refine congrArg (Dialogue.send _) (funext fun r => ?_)
  unfold readTotal
  cases r.firstRow.bind fun row => row.only "count" Cell.int64? with
  | error e => rfl
  | ok n =>
    change (if n < 0 then throw (Error.negativeCount n) else pure n.toUInt64 : Fallible Error UInt64).run =
      Dialogue.done (if n < 0 then .error (.negativeCount n) else .ok n.toUInt64)
    split <;> rfl

theorem run_readPage (plan : Search.Plan) (limit offset : UInt32) :
    (readPage plan limit offset).run = .send (Search.pageStatement plan limit offset) fun r => .done (readHits r) := by
  unfold readPage
  rw [Dialogue.run_bind_of_send (Dialogue.run_mapError_ask _ _ _)]
  refine congrArg (Dialogue.send _) (funext fun r => ?_)
  unfold readHits
  cases r.allRows.bind fun rows => rows.mapM FoundRow.ofRow with
  | error e => rfl
  | ok rows =>
    have hread : (Except.ok rows : Except Sql.Failure (List FoundRow)).mapError Error.sql = .ok rows := rfl
    rw [hread]
    cases h : hitsOfRows rows <;> simp only [h] <;> rfl

/-- A search tells of the query, asks for the number of events, and goes on with the number that it is told. -/
theorem run_search (settings : Search.Settings) (query : String) (filters : Filters) (limit offset : UInt32) :
    let plan := Search.Plan.ofRequest settings query filters
    (search settings query filters limit offset).run = .note (compiledNotice query plan)
      (if plan.conditions.all isSendable then
        .send (Search.countStatement plan) fun r =>
          match readTotal r with
          | .error e => .done (.error e)
          | .ok total => afterCount plan limit offset total
      else .done (.error .dateBeyondCalendar)) := by
  intro plan
  unfold search
  rw [Dialogue.run_tell_bind]
  refine congrArg (Dialogue.note _) ?_
  change ExceptT.run (if !plan.conditions.all isSendable then _ else _) = _
  cases plan.conditions.all isSendable with
  | false => rfl
  | true =>
    simp only [Bool.not_true, Bool.false_eq_true, if_false, if_true]
    refine (Dialogue.run_bind_of_send (run_countMatches plan) _).trans ?_
    refine congrArg (Dialogue.send _) (funext fun r => ?_)
    cases readTotal r with
    | error e => rfl
    | ok total =>
      unfold afterCount
      -- An empty page ends the search here; for any other one the rows are asked for.
      by_cases hpage : limit = 0 ∨ total ≤ offset.toUInt64
      · simp only [Bool.or_eq_true, decide_eq_true_eq, if_pos hpage]
        rfl
      · simp only [Bool.or_eq_true, decide_eq_true_eq, if_neg hpage]
        refine (Dialogue.run_bind_of_send (run_readPage plan limit offset) _).trans ?_
        refine congrArg (Dialogue.send _) (funext fun r => ?_)
        cases readHits r <;> rfl

end Lookout.Service
