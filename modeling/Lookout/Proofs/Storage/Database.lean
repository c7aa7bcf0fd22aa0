import Lookout.Proofs.Sql.Command
import Lookout.Proofs.Storage.Table
import Mathlib.Logic.Function.Basic

/-! The tables of cameras and events under the statements of all operations. A statement is carried out as its text
    says, or it is refused and nothing changes. -/

namespace Lookout.Storage

open Sql (Cell Columns Command Datum Ending Indexer Param Reply Returned Statement)

variable {ν : Type}

/-! ### Tables -/

/-- A camera of the table. The time of its recording is in microseconds since 1970. -/
structure StoredCamera where
  cameraId : String
  name : String
  createdAt : Int

/-- A column of a camera. -/
def StoredCamera.column? (row : StoredCamera) : Columns ν
  | "camera_id" => some (.cell (.text row.cameraId))
  | "name" => some (.cell (.text row.name))
  | "created_at" => some (.cell (.int row.createdAt))
  | _ => none

/-- The cameras and the events. No two cameras have one id. -/
structure Database (ν : Type) where
  cameras : List StoredCamera
  events : Table ν
  distinct : (cameras.map StoredCamera.cameraId).Nodup

/-- The columns of a new camera that are not given. -/
def cameraDefaults (now : Int) : Columns ν
  | "created_at" => some (.cell (.int now))
  | _ => none

/-- The columns of a new event that are not given. -/
def eventDefaults (eventId : Int64) : Columns ν
  | "event_id" => some (.cell (.int eventId.toInt))
  | "ended_at" | "risk_score" | "risk_level" | "summary" | "reasoning" | "object_types" | "detection_ids" =>
    some (.cell .null)
  | "reviewed" => some (.cell (.bool false))
  | "search_vector" => some (.vector none)
  | _ => none

/-- The new camera is recorded, or the one with its key takes a column from it. -/
inductive Upserts (now : Int) (given : List (String × Param)) (column excluded : String) (rows : List StoredCamera) :
    List StoredCamera → Prop where
  | record {camera : StoredCamera} (h : (camera.column? : Columns Unit) = (cameraDefaults now).assign given) :
      Upserts now given column excluded rows (rows ++ [camera])
  | update {old camera : StoredCamera} (hold : old ∈ rows)
      (hkey : (old.column? : Columns Unit) "camera_id" = (cameraDefaults now).assign given "camera_id")
      (h : (camera.column? : Columns Unit) =
        Function.update old.column? column ((cameraDefaults now).assign given excluded)) :
      Upserts now given column excluded rows (rows.map fun row => if row.cameraId = old.cameraId then camera else row)

namespace Database

/-- The camera with an id. -/
def camera? (db : Database ν) (cameraId : String) : Option StoredCamera :=
  db.cameras.find? fun camera => decide (camera.cameraId = cameraId)

/-- The event with an id. -/
def event? (db : Database ν) (eventId : Int64) : Option (StoredEvent ν) :=
  db.events.rows.find? fun row => decide (row.eventId = eventId)

/-- The rows that a lookup returns, from the table that it names. -/
def rows? (db : Database ν) (l : Sql.Lookup Param) : Option (List Sql.Row) :=
  match l.table with
  | "cameras" => l.rows? (fun row => (row.column? : Columns ν)) db.cameras
  | "events" => l.rows? StoredEvent.column? db.events.rows
  | _ => none

/-- What a command makes of the tables at a time, and its answer. A new event has an id of its own and a camera that is
    there. -/
def Performs (ix : Indexer ν) (now : Int) (db : Database ν) : Command Param → Database ν → Reply → Prop
  | .insert i, db', r =>
    match i.table, i.ending with
    | "cameras", .updating "camera_id" column excluded =>
      Upserts now i.given column excluded db.cameras db'.cameras ∧ db'.events = db.events ∧ r = .affected 1
    | "events", .returning column =>
      ∃ row : StoredEvent ν, row.column? = (eventDefaults row.eventId).assign i.given ∧ (db.camera? row.cameraId).isSome ∧
        db.events.Inserts [row] db'.events ∧ db'.cameras = db.cameras ∧
        ∃ cells, Columns.returned? row.column? [.column column] = some cells ∧ r = .rows [cells]
    | _, _ => False
  | .lookup l, db', r => db' = db ∧ ∃ rows, db.rows? l = some rows ∧ r = .rows rows
  | .update u, db', r => db'.cameras = db.cameras ∧ db.events.perform? ix u = some (db'.events, r)

/-- The statement is carried out as it says. -/
def Answers (ix : Indexer ν) (now : Int) (db : Database ν) (s : Statement) (db' : Database ν) (r : Reply) : Prop :=
  ∃ c, s.command? = some c ∧ db.Performs ix now c db' r

/-- The statement is carried out as it says, or it is refused and nothing changes. -/
def Executes (ix : Indexer ν) (now : Int) (db : Database ν) (s : Statement) (db' : Database ν) (r : Reply) : Prop :=
  db.Answers ix now s db' r ∨ db' = db ∧ ∃ message, r = .failed message

end Database

/-! ### What the statements say -/

section
variable (cameraId name config : String) (e : NewEvent) (eventId : Int64) (batch : UInt32)

/-- What is returned of an event. -/
def eventReturned : List Returned :=
  [.column "event_id", .column "camera_id", .column "started_at", .column "ended_at", .column "risk_score",
    .column "risk_level", .column "summary", .column "reasoning", .column "reviewed", .column "object_types",
    .column "detection_ids", .isNotNull "search_vector" "indexed"]

/-- The tokens of the statement that looks an event up. -/
def selectEventTokens : List String :=
  ["SELECT", "event_id", ",", "camera_id", ",", "started_at", ",", "ended_at", ",", "risk_score", ",", "risk_level", ",",
    "summary", ",", "reasoning", ",", "reviewed", ",", "object_types", ",", "detection_ids", ",", "search_vector", "IS",
    "NOT", "NULL", "AS", "indexed", "FROM", "events", "WHERE", "event_id", "=", "$1"]

theorem command?_selectEventStatement :
    (selectEventStatement eventId).command? = some (.lookup ⟨eventReturned, "events", "event_id", .int8 eventId⟩) := by
  have htokens : Sql.tokens (selectEventStatement eventId).sql.toList = selectEventTokens := by
    refine Sql.tokens_eq ?_
    unfold selectEventStatement Sql.columnList eventColumns
    simp only [String.toList_append, String.toList_intercalate, List.map_cons, List.map_nil, String.reduceToList]
    decide +kernel
  have hread : Command.ofTokens? selectEventTokens = some (.lookup ⟨eventReturned, "events", "event_id", 1⟩) := by
    decide +kernel
  rw [Statement.command?, htokens, hread]
  rfl

end
end Lookout.Storage
