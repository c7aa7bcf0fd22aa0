import Lookout.Proofs.Storage.Database

/-! What the statements do to the cameras and the events that have an id. -/

namespace Lookout

open Sql (Cell Datum Indexer Param Reply Statement)

/-! ### Instants in microseconds -/

/-- The instant as it is kept, in whole microseconds. -/
def Time.Instant.inMicros (t : Instant) : Instant := .ofMicros t.toMicros

namespace Storage

/-- The event as it is kept, with its instants in whole microseconds. -/
def NewEvent.inMicros (e : NewEvent) : NewEvent :=
  { e with startedAt := e.startedAt.inMicros, endedAt := e.endedAt.map Time.Instant.inMicros }

variable {ν : Type} {ix : Indexer ν} {now : Int} {db db' : Database ν} {s : Statement} {r : Reply}

/-! ### Cameras -/

/-- The camera behind a statement that names it, when this is the one before. -/
def StoredCamera.named (cameraId name : String) (now : Int) (old : Option StoredCamera) : StoredCamera :=
  old.elim ⟨cameraId, name, now⟩ fun camera => { camera with name }

/-- The row that is returned of a camera. -/
def StoredCamera.returned (row : StoredCamera) : Sql.Row :=
  [("camera_id", .text row.cameraId), ("name", .text row.name), ("created_at", .int row.createdAt)]

theorem StoredCamera.eq_of_column? {camera : StoredCamera} {cameraId name : String} {createdAt : Int}
    (hid : (camera.column? : Sql.Columns Unit) "camera_id" = some (.cell (.text cameraId)))
    (hname : (camera.column? : Sql.Columns Unit) "name" = some (.cell (.text name)))
    (hcreated : (camera.column? : Sql.Columns Unit) "created_at" = some (.cell (.int createdAt))) :
    camera = ⟨cameraId, name, createdAt⟩ := by
  obtain ⟨id, n, c⟩ := camera
  cases hid
  cases hname
  cases hcreated
  rfl

/-- A row that takes the place of the one with its id is found there, and nothing else moves. -/
theorem StoredCamera.find?_replace (rows : List StoredCamera) (camera : StoredCamera) (id : String) :
    ((rows.map fun row => if row.cameraId = camera.cameraId then camera else row).find? fun row =>
        decide (row.cameraId = id)) =
      if id = camera.cameraId then (rows.find? fun row => decide (row.cameraId = id)).map fun _ => camera
      else rows.find? fun row => decide (row.cameraId = id) := by
  have hkeep : ∀ row : StoredCamera,
      (if row.cameraId = camera.cameraId then camera else row).cameraId = row.cameraId := by
    intro row
    split
    · next hrow => exact hrow.symm
    · rfl
  simp only [List.find?_map, Function.comp_def, hkeep]
  cases hfind : rows.find? fun row => decide (row.cameraId = id) with
  | none => split <;> rfl
  | some row =>
    obtain ⟨hdecided, -⟩ := List.find?_eq_some_iff_append.mp hfind
    obtain rfl : row.cameraId = id := of_decide_eq_true hdecided
    split
    · next hid => simp [hid]
    · next hid => simp [hid]

theorem Upserts.find? {cameraId name : String} {rows rows' : List StoredCamera}
    (h : Upserts now [("camera_id", .text cameraId), ("name", .text name)] "name" "name" rows rows')
    (hdistinct : (rows.map StoredCamera.cameraId).Nodup) (hdistinct' : (rows'.map StoredCamera.cameraId).Nodup)
    (id : String) :
    (rows'.find? fun row => decide (row.cameraId = id)) =
      if id = cameraId then
        some (.named cameraId name now (rows.find? fun row => decide (row.cameraId = cameraId)))
      else rows.find? fun row => decide (row.cameraId = id) := by
  cases h with
  | @record camera hcamera =>
    obtain rfl : camera = ⟨cameraId, name, now⟩ :=
      StoredCamera.eq_of_column? (congrFun hcamera _) (congrFun hcamera _) (congrFun hcamera _)
    -- The ids are distinct with the new camera among them, so no camera had its id.
    have hnone : (rows.find? fun row => decide (row.cameraId = cameraId)) = none := by
      rw [List.map_append, List.nodup_append] at hdistinct'
      refine List.find?_eq_none.mpr fun row hrow hid => ?_
      exact hdistinct'.2.2 _ (List.mem_map_of_mem hrow) cameraId (by simp) (of_decide_eq_true hid)
    rw [List.find?_append, hnone, StoredCamera.named]
    split
    · next hid =>
      subst hid
      simp [hnone]
    · next hid => simp [Ne.symm hid]
  | @update old camera hold hkey hcamera =>
    have hid : old.cameraId = cameraId := Cell.text.inj (Datum.cell.inj (Option.some.inj hkey))
    subst hid
    obtain rfl : camera = { old with name } :=
      StoredCamera.eq_of_column? (congrFun hcamera _) (congrFun hcamera _) (congrFun hcamera _)
    have hfind := (Sql.find?_eq_some_iff_of_nodup hdistinct).mpr ⟨hold, rfl⟩
    refine (StoredCamera.find?_replace rows { old with name } id).trans ?_
    split
    · next hid =>
      rw [hid, hfind]
      rfl
    · rfl

namespace Database

theorem answers_iff {c : Sql.Command Param} (hc : s.command? = some c) :
    db.Answers ix now s db' r ↔ db.Performs ix now c db' r := by
  constructor
  · rintro ⟨d, hd, h⟩
    rw [hc] at hd
    exact Option.some.inj hd ▸ h
  · exact fun h => ⟨c, hc, h⟩

end Database

/-! ### Events -/

/-- The row that is returned of an event. -/
def StoredEvent.returned (row : StoredEvent ν) : Sql.Row :=
  [("event_id", .int row.eventId.toInt), ("camera_id", .text row.cameraId), ("started_at", .int row.startedAt.toMicros),
    ("ended_at", row.endedAt.elim .null fun t => .int t.toMicros),
    ("risk_score", row.riskScore.elim .null fun i => .int i.toInt), ("risk_level", textCell row.riskLevel),
    ("summary", textCell row.summary), ("reasoning", textCell row.reasoning), ("reviewed", .bool row.reviewed),
    ("object_types", textCell row.objectTypes), ("detection_ids", textCell row.detectionIds),
    ("indexed", .bool row.vector.isSome)]

theorem StoredEvent.returned?_column? (row : StoredEvent ν) :
    Sql.Columns.returned? row.column? eventReturned = some row.returned := by
  obtain ⟨e, eventId, vector⟩ := row
  cases vector <;> rfl

theorem eventOfRow_returned (row : StoredEvent ν) :
    eventOfRow row.returned = .ok { row.toNewEvent.inMicros with eventId := row.eventId, indexed := row.vector.isSome } := by
  obtain ⟨⟨cameraId, startedAt, endedAt, riskScore, riskLevel, summary, reasoning, reviewed, objectTypes,
    detectionIds⟩, eventId, vector⟩ := row
  have htext : ∀ column (o : Option String), (textCell o).nullable column Cell.text? = .ok o :=
    fun column o => by cases o <;> rfl
  have hinstant : ∀ column (o : Option Time.Instant),
      (o.elim .null fun t => Cell.int t.toMicros).nullable column Cell.instant? = .ok (o.map .inMicros) :=
    fun column o => by cases o <;> rfl
  have hint : ∀ column (o : Option Int32), (o.elim .null fun i => Cell.int i.toInt).nullable column Cell.int32? = .ok o := by
    intro column o
    cases o with
    | none => rfl
    | some i => simp [Cell.nullable, Cell.int32?]
  have hid : (Cell.int eventId.toInt).required (.named "event_id") Cell.int64? = .ok eventId := by
    simp [Cell.required, Cell.int64?]
  simp only [eventOfRow, StoredEvent.returned, Sql.Row.required, Sql.Row.nullable, Sql.Row.cell, List.lookup_cons,
    String.reduceBEq, BEq.rfl, Option.getD_some, htext, hinstant, hint, hid]
  rfl

namespace Database

theorem event?_eq_some {eventId : Int64} {row : StoredEvent ν} :
    db.event? eventId = some row ↔ row ∈ db.events.rows ∧ row.eventId = eventId :=
  Sql.find?_eq_some_iff_of_nodup db.events.ids_nodup

theorem answers_selectEventStatement {eventId : Int64} :
    db.Answers ix now (selectEventStatement eventId) db' r ↔
      db' = db ∧ r = .rows ((db.event? eventId).toList.map StoredEvent.returned) := by
  have hfilter : (db.events.rows.filter fun row => Sql.Columns.has row.column? "event_id" (.int8 eventId)) =
      (db.event? eventId).toList := by
    rw [event?, ← Sql.filter_eq_toList_find? db.events.ids_nodup]
    refine List.filter_congr fun row _ => ?_
    simp [Sql.Columns.has, StoredEvent.column?, Param.cell?, Bool.beq_eq_decide_eq, Int64.toInt_inj]
  have hrows : db.rows? ⟨eventReturned, "events", "event_id", .int8 eventId⟩ =
      some ((db.event? eventId).toList.map StoredEvent.returned) := by
    change ((db.events.rows.filter fun row => Sql.Columns.has row.column? "event_id" (.int8 eventId)).mapM _) = _
    rw [hfilter]
    cases db.event? eventId with
    | none => rfl
    | some row => simp [StoredEvent.returned?_column?]
  rw [answers_iff (command?_selectEventStatement eventId), Performs, hrows]
  simp

theorem event?_index {config : String} {chosen : List Int64} (h : db'.events = db.events.index ix config chosen)
    (id : Int64) : db'.event? id = (db.event? id).map (·.entered ix config chosen) := by
  have hkeep : ∀ row : StoredEvent ν, (row.entered ix config chosen).eventId = row.eventId := by
    intro row
    rw [StoredEvent.entered]
    split <;> rfl
  simp only [event?, h, Table.rows_index, List.find?_map, Function.comp_def, hkeep]

end Database

end Storage
end Lookout
