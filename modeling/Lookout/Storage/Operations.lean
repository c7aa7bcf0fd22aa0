import Lookout.Dialogue
import Lookout.Storage.Error

/-! The stored cameras and events: how they are recorded, read and indexed. -/

namespace Lookout.Storage

structure Camera where
  cameraId : String
  name : String
  createdAt : Time.Instant
  deriving Repr, DecidableEq

/-- An event to be recorded. It is not indexed at first. -/
structure NewEvent where
  cameraId : String
  startedAt : Time.Instant
  endedAt : Option Time.Instant
  riskScore : Option Int32
  riskLevel : Option String
  summary : Option String
  reasoning : Option String
  reviewed : Bool
  objectTypes : Option String
  /-- The text of a list of ids. -/
  detectionIds : Option String
  deriving Repr, DecidableEq

/-- A recorded event. -/
structure Event extends NewEvent where
  eventId : Int64
  /-- The text index knows the event. -/
  indexed : Bool
  deriving Repr, DecidableEq

/-! ### Statements -/

def insertCameraStatement (cameraId name : String) : Sql.Statement :=
  ⟨"INSERT INTO cameras (camera_id, name)\n"
    ++ "VALUES ($1, $2)\n"
    ++ "ON CONFLICT (camera_id) DO UPDATE SET name = EXCLUDED.name",
   [.text cameraId, .text name]⟩

def selectCameraStatement (cameraId : String) : Sql.Statement :=
  ⟨"SELECT camera_id, name, created_at FROM cameras WHERE camera_id = $1", [.text cameraId]⟩

/-- The columns that are given when an event is recorded, with their values. -/
def newEventValues (e : NewEvent) : List (String × Sql.Param) :=
  [("camera_id", .text e.cameraId),
   ("started_at", .timestamptz e.startedAt.toMicros),
   ("ended_at", e.endedAt.elim (.null .timestamptz) fun t => .timestamptz t.toMicros),
   ("risk_score", e.riskScore.elim (.null .int4) .int4),
   ("risk_level", .ofText? e.riskLevel),
   ("summary", .ofText? e.summary),
   ("reasoning", .ofText? e.reasoning),
   ("reviewed", .bool e.reviewed),
   ("object_types", .ofText? e.objectTypes),
   ("detection_ids", .ofText? e.detectionIds)]

def insertEventStatement (e : NewEvent) : Sql.Statement :=
  let values := newEventValues e
  .ofPieces ([.raw "INSERT INTO events (\n\t", .raw (Sql.columnList (values.map (·.1))), .raw "\n)\nVALUES ("]
    ++ Sql.separated ", " (values.map fun v => [.value v.2]) ++ [.raw ")\nRETURNING event_id"])

/-- The columns that are read of a recorded event. -/
def eventColumns : List String :=
  ["event_id", "camera_id", "started_at", "ended_at", "risk_score", "risk_level", "summary", "reasoning", "reviewed",
   "object_types", "detection_ids", "search_vector IS NOT NULL AS indexed"]

def selectEventStatement (eventId : Int64) : Sql.Statement :=
  ⟨"SELECT\n\t" ++ Sql.columnList eventColumns ++ "\nFROM events\nWHERE event_id = $1", [.int8 eventId]⟩

/-- The index entry of an event: its summary weighs most, then its object types, then the reasoning. An
    absent text counts as an empty one, so every event has an entry. -/
def searchVector : String :=
  "setweight(to_tsvector($1::regconfig, COALESCE(summary, '')), 'A')\n"
    ++ "\t|| setweight(to_tsvector($1::regconfig, COALESCE(object_types, '')), 'B')\n"
    ++ "\t|| setweight(to_tsvector($1::regconfig, COALESCE(reasoning, '')), 'C')"

def indexEventStatement (eventId : Int64) (config : String) : Sql.Statement :=
  ⟨"UPDATE events SET search_vector = " ++ searchVector ++ " WHERE event_id = $2", [.text config, .int8 eventId]⟩

/-- Index the first events that are not indexed yet, `batch` of them at most. -/
def backfillStatement (config : String) (batch : UInt32) : Sql.Statement :=
  ⟨"UPDATE events\nSET search_vector = " ++ searchVector ++ "\n"
    ++ "WHERE event_id IN (\n"
    ++ "\tSELECT event_id\n"
    ++ "\tFROM events\n"
    ++ "\tWHERE search_vector IS NULL\n"
    ++ "\tORDER BY event_id\n"
    ++ "\tLIMIT $2\n"
    ++ ")",
   [.text config, .int8 (Int64.ofNat batch.toNat)]⟩

/-! ### Rows -/

open Sql (Row Cell Failure)

/-- The camera of a row. Of several columns at fault the first is reported. -/
def cameraOfRow (row : Row) : Except Failure Camera := do
  let cameraId ← row.required "camera_id" Cell.text?
  let name ← row.required "name" Cell.text?
  let createdAt ← row.required "created_at" Cell.instant?
  return ⟨cameraId, name, createdAt⟩

/-- The event of a row. Of several columns at fault the first is reported. -/
def eventOfRow (row : Row) : Except Failure Event := do
  let eventId ← row.required "event_id" Cell.int64?
  let cameraId ← row.required "camera_id" Cell.text?
  let startedAt ← row.required "started_at" Cell.instant?
  let endedAt ← row.nullable "ended_at" Cell.instant?
  let riskScore ← row.nullable "risk_score" Cell.int32?
  let riskLevel ← row.nullable "risk_level" Cell.text?
  let summary ← row.nullable "summary" Cell.text?
  let reasoning ← row.nullable "reasoning" Cell.text?
  let reviewed ← row.required "reviewed" Cell.bool?
  let objectTypes ← row.nullable "object_types" Cell.text?
  let detectionIds ← row.nullable "detection_ids" Cell.text?
  let indexed ← row.required "indexed" Cell.bool?
  return { eventId, cameraId, startedAt, endedAt, riskScore, riskLevel, summary, reasoning, reviewed, objectTypes,
           detectionIds, indexed }

/-! ### Operations -/

open Dialogue (Fallible)

/-- Record a camera, or give a recorded one a new name. -/
def insertCamera (cameraId name : String) : Fallible Error Unit :=
  Dialogue.mapError .sql do
    let _ ← Dialogue.execute (insertCameraStatement cameraId name)

/-- The camera of an id. -/
def getCamera (cameraId : String) : Fallible Error Camera := do
  match ← Dialogue.mapError .sql (Dialogue.ask (selectCameraStatement cameraId)
      fun r => r.firstRow?.bind fun row => row.mapM cameraOfRow) with
  | some camera => return camera
  | none => throw (.cameraNotFound cameraId)

/-- Record an event. The result is its id. -/
def insertEvent (e : NewEvent) : Fallible Error Int64 :=
  Dialogue.mapError .sql (Dialogue.ask (insertEventStatement e)
    fun r => r.firstRow.bind fun row => row.only "event_id" Cell.int64?)

/-- The event of an id. -/
def getEvent (eventId : Int64) : Fallible Error Event := do
  match ← Dialogue.mapError .sql (Dialogue.ask (selectEventStatement eventId)
      fun r => r.firstRow?.bind fun row => row.mapM eventOfRow) with
  | some e => return e
  | none => throw (.eventNotFound eventId)

/-- Index one event, also if it is indexed already. -/
def indexEvent (eventId : Int64) (config : String) : Fallible Error Unit := do
  let changed ← Dialogue.mapError .sql (Dialogue.execute (indexEventStatement eventId config))
  if changed = 0 then throw (.eventNotFound eventId)

/-- Index all events that are not indexed yet, in batches. The result is their number. -/
def backfill (config : String) (batch : UInt32) : Fallible Error UInt64 :=
  if batch = 0 then throw .emptyBatch
  else
    Dialogue.mapError .sql (ExceptT.mk (.drain (backfillStatement config batch) Notice.backfilled .done))

end Lookout.Storage
