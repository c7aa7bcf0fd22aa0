import Lookout.Proofs.Dialogue.Asks
import Lookout.Proofs.Storage.Effects

/-! Runs of the operations, of any number of clients side by side, from empty tables. Each statement is carried out or
    refused as a whole. What a statement does is said once, and what holds of the tables after a run follows from it. -/

namespace Lookout.Storage

open Dialogue (Asks Fallible)
open Sql (Indexer Reply Statement)

variable {ι ν α : Type}

/-! ### Operations -/

/-- What a caller asks of the store. -/
inductive Operation where
  | insertCamera (cameraId name : String)
  | getCamera (cameraId : String)
  | insertEvent (e : NewEvent)
  | getEvent (eventId : Int64)
  | indexEvent (eventId : Int64) (config : String)
  | backfill (config : String) (batch : UInt32)

namespace Operation

/-- The statement that waits for an answer behind these. -/
def awaited? : Operation → List Reply → Option Statement
  | insertCamera cameraId name => (Storage.insertCamera cameraId name).run.awaited?
  | getCamera cameraId => (Storage.getCamera cameraId).run.awaited?
  | insertEvent e => (Storage.insertEvent e).run.awaited?
  | getEvent eventId => (Storage.getEvent eventId).run.awaited?
  | indexEvent eventId config => (Storage.indexEvent eventId config).run.awaited?
  | backfill config batch => (Storage.backfill config batch).run.awaited?

/-- The only statement of the operation. -/
def statement : Operation → Statement
  | insertCamera cameraId name => insertCameraStatement cameraId name
  | getCamera cameraId => selectCameraStatement cameraId
  | insertEvent e => insertEventStatement e
  | getEvent eventId => selectEventStatement eventId
  | indexEvent eventId config => indexEventStatement eventId config
  | backfill config batch => backfillStatement config batch

end Operation

theorem asks_insertCamera (cameraId name : String) :
    Asks (insertCamera cameraId name) (insertCameraStatement cameraId name) fun r =>
      (r.executed.bind fun _ => .ok ()).mapError Error.sql :=
  ((Asks.ask _ _).bind fun _ => rfl).mapError Error.sql

theorem asks_getCamera (cameraId : String) :
    Asks (getCamera cameraId) (selectCameraStatement cameraId) fun r =>
      ((r.firstRow?.bind fun row => row.mapM cameraOfRow).mapError Error.sql).bind fun camera =>
        camera.elim (.error (.cameraNotFound cameraId)) .ok :=
  ((Asks.ask _ _).mapError Error.sql).bind fun camera => by cases camera <;> rfl

theorem asks_insertEvent (e : NewEvent) :
    Asks (insertEvent e) (insertEventStatement e) fun r =>
      (r.firstRow.bind fun row => row.only "event_id" Sql.Cell.int64?).mapError Error.sql :=
  (Asks.ask _ _).mapError Error.sql

theorem asks_getEvent (eventId : Int64) :
    Asks (getEvent eventId) (selectEventStatement eventId) fun r =>
      ((r.firstRow?.bind fun row => row.mapM eventOfRow).mapError Error.sql).bind fun e =>
        e.elim (.error (.eventNotFound eventId)) .ok :=
  ((Asks.ask _ _).mapError Error.sql).bind fun e => by cases e <;> rfl

theorem asks_indexEvent (eventId : Int64) (config : String) :
    Asks (indexEvent eventId config) (indexEventStatement eventId config) fun r =>
      (r.executed.mapError Error.sql).bind fun changed =>
        if changed = 0 then .error (.eventNotFound eventId) else .ok () :=
  ((Asks.ask _ _).mapError Error.sql).bind fun changed => by split <;> rfl

theorem Operation.eq_statement_of_awaited? {op : Operation} {replies : List Reply} {s : Statement}
    (h : op.awaited? replies = some s) : s = op.statement := by
  cases op with
  | insertCamera cameraId name => exact (((asks_insertCamera cameraId name).awaited? replies s).mp h).2
  | getCamera cameraId => exact (((asks_getCamera cameraId).awaited? replies s).mp h).2
  | insertEvent e => exact (((asks_insertEvent e).awaited? replies s).mp h).2
  | getEvent eventId => exact (((asks_getEvent eventId).awaited? replies s).mp h).2
  | indexEvent eventId config => exact (((asks_indexEvent eventId config).awaited? replies s).mp h).2
  | backfill config batch =>
    by_cases hbatch : batch = 0
    · subst hbatch
      cases replies <;> cases h
    · have hrun : (Storage.backfill config batch).run =
          .drain (backfillStatement config batch) Notice.backfilled fun r => .done (r.mapError Error.sql) := by
        rw [Storage.backfill, if_neg hbatch]
        rfl
      change (Storage.backfill config batch).run.awaited? replies = some s at h
      rw [hrun] at h
      exact Dialogue.eq_of_awaited?_drain h

/-! ### Runs -/

/-- The tables, and the answers that each operation has got so far. -/
structure World (ι ν : Type) where
  database : Database ν
  replies : ι → List Reply

/-- A statement of an operation: when it was sent, its answer, and the tables before and behind it. -/
structure Entry (ι ν : Type) where
  caller : ι
  now : Int
  before : Database ν
  reply : Reply
  after : Database ν

/-- The database before anything is recorded. -/
def Database.empty : Database ν := ⟨[], ⟨[], .nil, Nat.zero_lt_succ _⟩, .nil⟩

/-- From empty tables, these statements in turn lead to the world. -/
inductive Execution [DecidableEq ι] (ix : Indexer ν) (ops : ι → Operation) : List (Entry ι ν) → World ι ν → Prop where
  | start : Execution ix ops [] ⟨.empty, fun _ => []⟩
  | step {es : List (Entry ι ν)} {w : World ι ν} {i : ι} {now : Int} {s : Statement} {db : Database ν} {r : Reply}
      (h : Execution ix ops es w) (hs : (ops i).awaited? (w.replies i) = some s)
      (hdb : w.database.Executes ix now s db r) :
      Execution ix ops (es ++ [⟨i, now, w.database, r, db⟩]) ⟨db, Function.update w.replies i (w.replies i ++ [r])⟩

namespace Entry

variable (ops : ι → Operation) (entry : Entry ι ν)

/-- The name that the statement gave to a camera, and when. -/
def naming? (cameraId : String) : Option (String × Int) :=
  match ops entry.caller, entry.reply.executed with
  | .insertCamera id name, .ok _ => if id = cameraId then some (name, entry.now) else none
  | _, _ => none

/-- The operation recorded the event and returned this id. -/
def Records (e : NewEvent) (id : Int64) : Prop :=
  ops entry.caller = .insertEvent e ∧ (insertEvent e).run.Ends [entry.reply] (.ok id)

/-- The event was indexed on its own, or the statement of a batch covered it. -/
def Indexes (id : Int64) : Prop :=
  match ops entry.caller with
  | .indexEvent eventId config => eventId = id ∧ (indexEvent eventId config).run.Ends [entry.reply] (.ok ())
  | .backfill _ batch =>
    (∃ n, entry.reply.executed = .ok n) ∧ id ∈ entry.before.events.unindexed.take batch.toNat
  | _ => False

/-- The database has executed the statement of this entry and given its answer. -/
def Executed (ix : Indexer ν) : Prop :=
  entry.before.Executes ix entry.now (ops entry.caller).statement entry.after entry.reply

/-- All that a statement can do. -/
inductive Effect (ix : Indexer ν) : Prop where
  | keep (hdb : entry.after = entry.before) (hnaming : ∀ id, entry.naming? ops id = none)
      (hrecords : ∀ e id, ¬ entry.Records ops e id) (hindexes : ∀ id, ¬ entry.Indexes ops id)
  | name {cameraId name : String} (hop : ops entry.caller = .insertCamera cameraId name)
      (hreply : entry.reply = .affected 1) (hevents : entry.after.events = entry.before.events)
      (hcamera : ∀ id, entry.after.camera? id = if id = cameraId then
        some (.named cameraId name entry.now (entry.before.camera? cameraId)) else entry.before.camera? id)
  | record {e : NewEvent} {row : StoredEvent ν} (hop : ops entry.caller = .insertEvent e)
      (hreply : entry.reply = .rows [[("event_id", .int row.eventId.toInt)]])
      (hsame : row.toNewEvent.inMicros = e.inMicros) (hvector : row.vector = none)
      (hnew : entry.before.event? row.eventId = none) (hcameras : entry.after.cameras = entry.before.cameras)
      (hevent : ∀ id, entry.after.event? id = if id = row.eventId then some row else entry.before.event? id)
  | index {config : String} {chosen : List Int64} (hcameras : entry.after.cameras = entry.before.cameras)
      (hevents : entry.after.events = entry.before.events.index ix config chosen)
      (hnaming : ∀ id, entry.naming? ops id = none) (hrecords : ∀ e id, ¬ entry.Records ops e id)
      (hindexes : ∀ id, entry.Indexes ops id ↔ id ∈ chosen) (hchosen : ∀ id ∈ chosen, (entry.before.event? id).isSome)

variable {ops entry} {ix : Indexer ν}

theorem records_iff {e : NewEvent} {id : Int64} (h : entry.reply = .rows [[("event_id", .int id.toInt)]])
    (hop : ops entry.caller = .insertEvent e) (e' : NewEvent) (id' : Int64) :
    entry.Records ops e' id' ↔ e' = e ∧ id' = id := by
  rw [Records, hop, Operation.insertEvent.injEq, eq_comm (a := e)]
  refine and_congr_right fun he => ?_
  rw [he, (asks_insertEvent e).ends, h]
  have hread : (((Reply.rows [[("event_id", .int id.toInt)]]).firstRow.bind fun row =>
      row.only "event_id" Sql.Cell.int64?).mapError Error.sql) = .ok (Int64.ofInt id.toInt) := rfl
  rw [hread, Int64.ofInt_toInt, Except.ok.injEq, eq_comm]

namespace Effect

theorem camera? (h : entry.Effect ops ix) (id : String) :
    entry.after.camera? id = (entry.naming? ops id).elim (entry.before.camera? id) fun n =>
      some (.named id n.1 n.2 (entry.before.camera? id)) := by
  have hkeep (hcameras : entry.after.cameras = entry.before.cameras) (hnaming : entry.naming? ops id = none) :
      entry.after.camera? id = (entry.naming? ops id).elim (entry.before.camera? id) fun n =>
        some (.named id n.1 n.2 (entry.before.camera? id)) := by
    rw [hnaming, Option.elim_none, Database.camera?, hcameras, ← Database.camera?]
  cases h with
  | keep hdb hnaming => exact hkeep (by rw [hdb]) (hnaming id)
  | record hop _ _ _ _ hcameras => exact hkeep hcameras (by simp [naming?, hop])
  | index hcameras _ hnaming => exact hkeep hcameras (hnaming id)
  | @name cameraId name hop hreply _ hcamera =>
    rw [hcamera, naming?, hop, hreply]
    by_cases hid : id = cameraId
    · simp [hid, Reply.executed]
    · simp [hid, Ne.symm hid, Reply.executed]

/-- A recorded event stays, and its index entry comes with the statements that index it. -/
theorem event_of_some (h : entry.Effect ops ix) {id : Int64} {row : StoredEvent ν}
    (hrow : entry.before.event? id = some row) :
    (∀ e, ¬ entry.Records ops e id) ∧ ∃ v, entry.after.event? id = some { row with vector := v } ∧
      (v.isSome ↔ row.vector.isSome ∨ entry.Indexes ops id) := by
  cases h with
  | keep hdb _ hrecords hindexes =>
    exact ⟨fun e => hrecords e id, row.vector, by rw [hdb, hrow], by simp [hindexes id]⟩
  | name hop _ hevents =>
    refine ⟨by simp [Records, hop], row.vector, ?_, by simp [Indexes, hop]⟩
    rw [Database.event?, hevents, ← Database.event?, hrow]
  | @record e new hop hreply hsame hvector hnew _ hevent =>
    have hid : id ≠ new.eventId := by
      rintro rfl
      rw [hrow] at hnew
      cases hnew
    refine ⟨fun e' hrecords => hid ((records_iff hreply hop e' id).mp hrecords).2, row.vector, ?_, by simp [Indexes, hop]⟩
    rw [hevent, if_neg hid, hrow]
  | @index config chosen _ hevents _ hrecords hindexes =>
    refine ⟨fun e => hrecords e id, (row.entered ix config chosen).vector, ?_, ?_⟩
    · rw [Database.event?_index hevents, hrow, Option.map_some, StoredEvent.entered]
      split <;> rfl
    · rw [hindexes, ← (Database.event?_eq_some.mp hrow).2, StoredEvent.entered]
      split <;> simp [*]

/-- An event that is not there yet is recorded or not, and nothing indexes it. -/
theorem event_of_none (h : entry.Effect ops ix) {id : Int64} (hnone : entry.before.event? id = none) :
    ¬ entry.Indexes ops id ∧
      ((∀ e, ¬ entry.Records ops e id) ∧ entry.after.event? id = none ∨
        ∃ e row, entry.Records ops e id ∧ entry.after.event? id = some row ∧ row.toNewEvent.inMicros = e.inMicros ∧
          row.vector = none) := by
  cases h with
  | keep hdb _ hrecords hindexes => exact ⟨hindexes id, Or.inl ⟨fun e => hrecords e id, by rw [hdb, hnone]⟩⟩
  | name hop _ hevents =>
    refine ⟨by simp [Indexes, hop], Or.inl ⟨by simp [Records, hop], ?_⟩⟩
    rw [Database.event?, hevents, ← Database.event?, hnone]
  | @record e new hop hreply hsame hvector hnew _ hevent =>
    refine ⟨by simp [Indexes, hop], ?_⟩
    rw [hevent]
    by_cases hid : id = new.eventId
    · subst hid
      exact Or.inr ⟨e, new, (records_iff hreply hop e _).mpr ⟨rfl, rfl⟩, if_pos rfl, hsame, hvector⟩
    · exact Or.inl ⟨fun e' hrecords => hid ((records_iff hreply hop e' id).mp hrecords).2, by rw [if_neg hid, hnone]⟩
  | @index config chosen _ hevents _ hrecords hindexes hchosen =>
    refine ⟨fun hid => ?_, Or.inl ⟨fun e => hrecords e id, ?_⟩⟩
    -- Only events that are there are chosen.
    · have hsome := hchosen id ((hindexes id).mp hid)
      rw [hnone] at hsome
      cases hsome
    · rw [Database.event?_index hevents, hnone]
      rfl

theorem exists_of_records (h : entry.Effect ops ix) {e : NewEvent} {id : Int64} (hrecords : entry.Records ops e id) :
    ∃ row, entry.after.event? id = some row ∧ row.toNewEvent.inMicros = e.inMicros ∧ row.vector = none := by
  cases hbefore : entry.before.event? id with
  | some old => exact absurd hrecords ((h.event_of_some hbefore).1 e)
  | none =>
    obtain ⟨-, ⟨hnone, -⟩ | ⟨e', row, hrecords', hrow⟩⟩ := h.event_of_none hbefore
    · exact absurd hrecords (hnone e)
    · obtain rfl : e' = e := Operation.insertEvent.inj (hrecords'.1.symm.trans hrecords.1)
      exact ⟨row, hrow⟩

end Effect
end Entry

/-! ### What a run leaves -/

/-- The names that a camera was given in a run, each with its time. -/
def namings (ops : ι → Operation) (cameraId : String) (es : List (Entry ι ν)) : List (String × Int) :=
  es.filterMap (·.naming? ops cameraId)

theorem namings_concat (ops : ι → Operation) (cameraId : String) (es : List (Entry ι ν)) (entry : Entry ι ν) :
    namings ops cameraId (es ++ [entry]) = namings ops cameraId es ++ (entry.naming? ops cameraId).toList := by
  rw [namings, List.filterMap_append, ← namings]
  cases hnaming : entry.naming? ops cameraId <;> simp [hnaming]

/-- The camera with these names: it has the last of them, and was recorded with the first. -/
def namedCamera? (cameraId : String) (ns : List (String × Int)) : Option StoredCamera :=
  ns.head?.bind fun first => ns.getLast?.map fun last => ⟨cameraId, last.1, first.2⟩

theorem namedCamera?_concat (cameraId : String) (ns : List (String × Int)) (n : String × Int) :
    namedCamera? cameraId (ns ++ [n]) = some (.named cameraId n.1 n.2 (namedCamera? cameraId ns)) := by
  cases ns with
  | nil => rfl
  | cons first rest => simp [namedCamera?, StoredCamera.named, List.getLast?_cons]

/-- The tables hold what the run put there. -/
structure Reflects (ops : ι → Operation) (es : List (Entry ι ν)) (db : Database ν) : Prop where
  cameras : ∀ id, db.camera? id = namedCamera? id (namings ops id es)
  recorded : ∀ entry ∈ es, ∀ e id, entry.Records ops e id →
    ∃ row, db.event? id = some row ∧ row.toNewEvent.inMicros = e.inMicros
  origin : ∀ id row, db.event? id = some row → ∃ entry ∈ es, ∃ e, entry.Records ops e id
  indexed : ∀ id row, db.event? id = some row → (row.vector.isSome ↔ ∃ entry ∈ es, entry.Indexes ops id)
  known : ∀ entry ∈ es, ∀ id, entry.Indexes ops id → (db.event? id).isSome

section
variable {ix : Indexer ν} {ops : ι → Operation} {es : List (Entry ι ν)} {w : World ι ν}

theorem Reflects.step {entry : Entry ι ν} (h : Reflects ops es entry.before) (heffect : entry.Effect ops ix) :
    Reflects ops (es ++ [entry]) entry.after where
  cameras id := by
    rw [heffect.camera?, h.cameras, namings_concat]
    cases entry.naming? ops id with
    | none => simp
    | some n => exact (namedCamera?_concat ..).symm
  recorded other hother e id hrecords := by
    rcases List.mem_append.mp hother with hother | hother
    · obtain ⟨row, hrow, hsame⟩ := h.recorded other hother e id hrecords
      obtain ⟨-, v, hafter, -⟩ := heffect.event_of_some hrow
      exact ⟨_, hafter, hsame⟩
    · obtain rfl := List.mem_singleton.mp hother
      obtain ⟨row, hrow, hsame, -⟩ := heffect.exists_of_records hrecords
      exact ⟨row, hrow, hsame⟩
  origin id row hrow := by
    -- An event that was there has been recorded before; any other one is recorded now.
    cases hbefore : entry.before.event? id with
    | some old =>
      obtain ⟨other, hother, hrecords⟩ := h.origin id old hbefore
      exact ⟨other, List.mem_append_left _ hother, hrecords⟩
    | none =>
      obtain ⟨-, ⟨-, hnone⟩ | ⟨e, -, hrecords, -⟩⟩ := heffect.event_of_none hbefore
      · rw [hrow] at hnone
        cases hnone
      · exact ⟨entry, List.mem_concat_self, e, hrecords⟩
  indexed id row hrow := by
    have hsplit : (∃ other ∈ es ++ [entry], other.Indexes ops id) ↔
        (∃ other ∈ es, other.Indexes ops id) ∨ entry.Indexes ops id := by
      simp [or_and_right, exists_or]
    rw [hsplit]
    cases hbefore : entry.before.event? id with
    | some old =>
      obtain ⟨-, v, hafter, hv⟩ := heffect.event_of_some hbefore
      obtain rfl := Option.some.inj (hrow.symm.trans hafter)
      rw [hv, h.indexed id old hbefore]
    | none =>
      obtain ⟨hindexes, ⟨-, hnone⟩ | ⟨e, new, -, hafter, -, hvector⟩⟩ := heffect.event_of_none hbefore
      · rw [hrow] at hnone
        cases hnone
      · obtain rfl := Option.some.inj (hrow.symm.trans hafter)
        rw [hvector]
        -- The event is new, and only known events were indexed before.
        refine iff_of_false Bool.false_ne_true (not_or_intro ?_ hindexes)
        rintro ⟨other, hother, hother'⟩
        have hknown := h.known other hother id hother'
        rw [hbefore] at hknown
        cases hknown
  known other hother id hindexes := by
    have hbefore : (entry.before.event? id).isSome := by
      rcases List.mem_append.mp hother with hother | hother
      · exact h.known other hother id hindexes
      · obtain rfl := List.mem_singleton.mp hother
        refine Option.isSome_iff_ne_none.mpr fun hnone => ?_
        exact (heffect.event_of_none hnone).1 hindexes
    obtain ⟨row, hrow⟩ := Option.isSome_iff_exists.mp hbefore
    obtain ⟨-, v, hafter, -⟩ := heffect.event_of_some hrow
    rw [hafter]
    rfl

theorem Execution.executed [DecidableEq ι] (h : Execution ix ops es w) : ∀ entry ∈ es, entry.Executed ops ix := by
  induction h with
  | start => exact fun entry hentry => by cases hentry
  | @step es w i now s db r h hs hdb ih =>
    obtain rfl := Operation.eq_statement_of_awaited? hs
    intro entry hentry
    rcases List.mem_append.mp hentry with hentry | hentry
    · exact ih entry hentry
    · obtain rfl := List.mem_singleton.mp hentry
      exact hdb

end

end Lookout.Storage
