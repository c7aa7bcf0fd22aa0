import Lookout.Dialogue
import Lookout.Response.Basic
import Lookout.Search.Statement
import Lookout.Service.Error

/-! A search: the events that match are counted, and if the page holds any of them, they are read. A search
    succeeds as a whole or not at all. -/

namespace Lookout.Service

open Dialogue (Fallible)
open Sql (Row Cell Failure)

/-- A row of a page. -/
structure FoundRow where
  eventId : Int64
  cameraId : String
  cameraName : String
  startedAt : Time.Instant
  endedAt : Option Time.Instant
  riskScore : Option Int32
  riskLevel : Option String
  summary : Option String
  reasoning : Option String
  reviewed : Bool
  objectTypes : Option String
  detectionIds : Option String
  score : Binary64
  deriving Repr, DecidableEq

/-- The reading of a row. Of several columns at fault the first is reported. -/
def FoundRow.ofRow (row : Row) : Except Failure FoundRow := do
  let eventId ← row.required "event_id" Cell.int64?
  let cameraId ← row.required "camera_id" Cell.text?
  let cameraName ← row.required "camera_name" Cell.text?
  let startedAt ← row.required "started_at" Cell.instant?
  let endedAt ← row.nullable "ended_at" Cell.instant?
  let riskScore ← row.nullable "risk_score" Cell.int32?
  let riskLevel ← row.nullable "risk_level" Cell.text?
  let summary ← row.nullable "summary" Cell.text?
  let reasoning ← row.nullable "reasoning" Cell.text?
  let reviewed ← row.required "reviewed" Cell.bool?
  let objectTypes ← row.nullable "object_types" Cell.text?
  let detectionIds ← row.nullable "detection_ids" Cell.text?
  let score ← row.required "relevance_score" Cell.float?
  return { eventId, cameraId, cameraName, startedAt, endedAt, riskScore, riskLevel, summary, reasoning, reviewed,
           objectTypes, detectionIds, score }

/-- The hit of a row. Its score is moved into the range from 0 to 1. -/
def FoundRow.toHit (row : FoundRow) : Except IdList.Error Hit := do
  let ids ← IdList.ofStored (row.detectionIds.map String.toList)
  return {
    id := row.eventId
    cameraId := row.cameraId
    cameraName := row.cameraName
    startedAt := row.startedAt
    endedAt := row.endedAt
    riskScore := row.riskScore
    riskLevel := row.riskLevel
    summary := row.summary
    reasoning := row.reasoning
    reviewed := row.reviewed
    detectionCount := UInt64.ofNat ids.length
    detectionIds := ids
    objectTypes := row.objectTypes
    relevance := row.score.clampUnit }

/-- The hits of a page, or an error about the first row that gives none. -/
def hitsOfRows (rows : List FoundRow) : Except IdList.Error (List Hit) := rows.mapM FoundRow.toHit

/-- The condition can be sent: a date behind the calendar has no form in UTC. -/
def isSendable : Condition → Bool
  | .startedAtOrAfter t => t.date.year ≤ 9999
  | .startedBefore t => t.date.year ≤ 9999
  | _ => true

/-- The notice about a query that was read. -/
def compiledNotice (query : String) (plan : Search.Plan) : Notice :=
  let predicate := Query.Predicate.ofQuery query.toList
  .compiled plan.mode predicate.termCount (!predicate.isEmpty) plan.conditions.length

/-- The number of events that match. -/
def countMatches (plan : Search.Plan) : Fallible Error UInt64 := do
  let n ← Dialogue.mapError .sql (Dialogue.ask (Search.countStatement plan)
    fun r => r.firstRow.bind fun row => row.only "count" Cell.int64?)
  if n < 0 then throw (.negativeCount n) else return n.toUInt64

/-- The hits of one page. All rows are read before a list of ids is. -/
def readPage (plan : Search.Plan) (limit offset : UInt32) : Fallible Error (List Hit) := do
  let rows ← Dialogue.mapError .sql (Dialogue.ask (Search.pageStatement plan limit offset)
    fun r => r.allRows.bind fun rows => rows.mapM FoundRow.ofRow)
  match hitsOfRows rows with
  | .ok hits => return hits
  | .error e => throw (.badIdList e)

/-- Search the events. Of the events that match, `offset` are passed over and `limit` at most are listed; if
    none can be left, the page is not asked for. -/
def search (settings : Search.Settings) (query : String) (filters : Filters) (limit offset : UInt32) :
    Fallible Error Response := do
  let plan := Search.Plan.ofRequest settings query filters
  Dialogue.tell (compiledNotice query plan)
  if !plan.conditions.all isSendable then throw .dateBeyondCalendar
  let totalCount ← countMatches plan
  let hits ← if limit = 0 || totalCount ≤ offset.toUInt64 then pure [] else readPage plan limit offset
  Dialogue.tell (.searched totalCount hits.length limit offset)
  return ⟨hits, totalCount, limit, offset⟩

end Lookout.Service
