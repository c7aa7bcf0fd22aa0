import Lookout.Dialogue
import Lookout.Storage.Error
import Lookout.Text.Lines

/-! The tables of cameras and events, and how they are set up: in one transaction, behind a lock that keeps
    others from doing the same, or not at all. The schema is written in parts, and an outline asks for them. -/

namespace Lookout.Storage.Schema

/-- The table of cameras. -/
def cameras : String :=
  "CREATE TABLE IF NOT EXISTS cameras (\n"
    ++ "\tcamera_id text PRIMARY KEY,\n"
    ++ "\tname text NOT NULL,\n"
    ++ "\tcreated_at timestamptz NOT NULL DEFAULT now()\n"
    ++ ");\n"

/-- The table of events and its indexes. -/
def events : String :=
  "CREATE TABLE IF NOT EXISTS events (\n"
    ++ "\tevent_id bigserial PRIMARY KEY,\n"
    ++ "\tcamera_id text NOT NULL REFERENCES cameras(camera_id) ON DELETE CASCADE,\n"
    ++ "\tstarted_at timestamptz NOT NULL,\n"
    ++ "\tended_at timestamptz NULL,\n"
    ++ "\trisk_score integer NULL,\n"
    ++ "\trisk_level text NULL,\n"
    ++ "\tsummary text NULL,\n"
    ++ "\treasoning text NULL,\n"
    ++ "\treviewed boolean NOT NULL DEFAULT FALSE,\n"
    ++ "\tobject_types text NULL,\n"
    ++ "\tdetection_ids text NULL,\n"
    ++ "\tsearch_vector tsvector NULL\n"
    ++ ");\n"
    ++ "\n"
    ++ "CREATE INDEX IF NOT EXISTS idx_events_started_at\n"
    ++ "\tON events (started_at DESC, event_id DESC);\n"
    ++ "CREATE INDEX IF NOT EXISTS idx_events_camera\n"
    ++ "\tON events (camera_id, started_at DESC);\n"
    ++ "CREATE INDEX IF NOT EXISTS idx_events_risk_level\n"
    ++ "\tON events (risk_level);\n"
    ++ "CREATE INDEX IF NOT EXISTS idx_events_search_vector\n"
    ++ "\tON events USING GIN (search_vector);\n"
    ++ "CREATE INDEX IF NOT EXISTS idx_events_search_vector_missing\n"
    ++ "\tON events (event_id) WHERE search_vector IS NULL;\n"

/-- The parts of the schema by their names. -/
def parts : List (String × String) := [("tables/001_cameras.sql", cameras), ("tables/002_events.sql", events)]

/-- The outline of the schema. Each of its lines asks for a part. -/
def outline : String := "\\ir tables/001_cameras.sql\n\\ir tables/002_events.sql\n"

/-- The start of a line that asks for a part. -/
def directive : String := "\\ir "

/-- The name of the part that a line asks for. -/
def inclusion? (line : List Char) : Option (List Char) :=
  (directive.toList.isPrefixOf? (Text.trim line)).map Text.trim

/-- What stands for a line: the part that it asks for, or the line itself if it asks for none that there is. -/
def expandLine (line : List Char) : List Char :=
  ((inclusion? line).bind fun name => parts.lookup (String.ofList name)).elim line String.toList

/-- A text with parts in the place of the lines that ask for them. -/
def expand (s : List Char) : List Char := (Text.lines s).flatMap fun line => expandLine line ++ ['\n']

/-- The whole schema. -/
def text : String := String.ofList (expand outline.toList)

/-- The statements of a text: its pieces between semicolons, without the blanks around them; blank pieces are
    none. -/
def statementsOf (s : List Char) : List String :=
  (((Text.cut (· == ';') s).map Text.trim).filter (!·.isEmpty)).map String.ofList

/-- The statements of the schema. -/
def statements : List String := statementsOf text.toList

/-- A statement without values. -/
def plain (sql : String) : Sql.Statement := ⟨sql, []⟩

/-- The statement that takes the lock of the schema until the transaction ends. -/
def lock : Sql.Statement := ⟨"SELECT pg_advisory_xact_lock($1)", [.int8 7120115]⟩

/-- The statements between the first and the last of the transaction. -/
def guarded : List Sql.Statement := lock :: statements.map plain

/-- Send statements one after another, and stop at the first that fails. -/
def executeAll : List Sql.Statement → Dialogue.Fallible Sql.Failure Unit
  | [] => pure ()
  | s :: rest => do
    let _ ← Dialogue.execute s
    executeAll rest

/-- Take back the transaction, and report why. -/
def rollBack (e : Sql.Failure) : Dialogue (Except Error Unit) := .post (plain "ROLLBACK") (.done (.error (.sql e)))

/-- Set up the tables. -/
def ensure : Dialogue.Fallible Error Unit :=
  ExceptT.mk do
    match ← (Dialogue.execute (plain "BEGIN")).run with
    | .error e => return .error (.sql e)
    | .ok _ =>
      match ← (executeAll (guarded ++ [plain "COMMIT"])).run with
      | .error e => rollBack e
      | .ok _ => return .ok ()

end Lookout.Storage.Schema
