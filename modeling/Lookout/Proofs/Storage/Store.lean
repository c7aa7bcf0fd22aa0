import Lookout.Proofs.Storage.Runs

/-! What the operations return in a run. They keep a simple store: the name and the age of each camera, and each event as
    it was recorded, with a mark that it was indexed. -/

namespace Lookout.Storage

open Dialogue (Asks Fallible)
open Sql (Indexer Reply Statement)

variable {ι ν α : Type} {ix : Indexer ν} {db : Database ν} {id : Int64} {row : StoredEvent ν}

/-! ### Results -/

/-- The dialogue sends a statement that the database can carry out, and then this is always its result. -/
def Database.Yields (ix : Indexer ν) (db : Database ν) (d : Fallible Error α) (result : Except Error α) : Prop :=
  ∃ s, d.run.awaited? [] = some s ∧ (∃ now db' r, db.Answers ix now s db' r) ∧
    ∀ now db' r, db.Answers ix now s db' r → d.run.Ends [r] result

/-- The event is there, and marked in this way. -/
def Database.Shows (ix : Indexer ν) (db : Database ν) (id : Int64) (indexed : Bool) : Prop :=
  ∃ e, db.Yields ix (getEvent id) (.ok e) ∧ e.indexed = indexed

/-- What a caller is shown of a camera. -/
def StoredCamera.shown (camera : StoredCamera) : Camera := ⟨camera.cameraId, camera.name, .ofMicros camera.createdAt⟩

/-- What a caller is shown of an event, whose instants are those that the database keeps. -/
def StoredEvent.shown (row : StoredEvent ν) : Event :=
  { row.toNewEvent.inMicros with eventId := row.eventId, indexed := row.vector.isSome }

namespace Database

theorem Yields.of_asks {d : Fallible Error α} {s : Statement} {read : Reply → Except Error α} {result : Except Error α}
    (h : Asks d s read) (hanswer : ∃ now db' r, db.Answers ix now s db' r)
    (hread : ∀ now db' r, db.Answers ix now s db' r → read r = result) : db.Yields ix d result :=
  ⟨s, (h.awaited? [] s).mpr ⟨rfl, rfl⟩, hanswer, fun now db' r hr => (h.ends r result).mpr (hread now db' r hr)⟩

theorem Yields.unique {d : Fallible Error α} {a b : Except Error α} (ha : db.Yields ix d a) (hb : db.Yields ix d b) :
    a = b := by
  obtain ⟨s, hs, ⟨now, db', r, hr⟩, hends⟩ := ha
  obtain ⟨s', hs', -, hends'⟩ := hb
  obtain rfl := Option.some.inj (hs.symm.trans hs')
  exact (hends now db' r hr).2.symm.trans (hends' now db' r hr).2

theorem yields_getEvent (ix : Indexer ν) (db : Database ν) (id : Int64) :
    db.Yields ix (getEvent id) ((db.event? id).elim (.error (.eventNotFound id)) fun row => .ok row.shown) := by
  refine .of_asks (asks_getEvent id) ⟨0, db, _, answers_selectEventStatement.mpr ⟨rfl, rfl⟩⟩ fun now db' r h => ?_
  rw [(answers_selectEventStatement.mp h).2]
  cases db.event? id with
  | none => rfl
  | some row =>
    have hread : [row.returned].head?.mapM eventOfRow = .ok (some row.shown) := by
      rw [List.head?_cons, Option.mapM_some, eventOfRow_returned]
      rfl
    change (([row.returned].head?.mapM eventOfRow).mapError Error.sql).bind _ = _
    rw [hread]
    rfl

theorem shows_iff {indexed : Bool} :
    db.Shows ix id indexed ↔ ∃ row, db.event? id = some row ∧ row.vector.isSome = indexed := by
  have hyields := db.yields_getEvent ix id
  constructor
  · rintro ⟨e, he, rfl⟩
    have hresult := he.unique hyields
    cases hrow : db.event? id with
    | none =>
      rw [hrow] at hresult
      cases hresult
    | some row =>
      rw [hrow] at hresult
      cases hresult
      exact ⟨row, rfl, rfl⟩
  · rintro ⟨row, hrow, rfl⟩
    rw [hrow] at hyields
    exact ⟨row.shown, hyields, rfl⟩

end Database

/-! ### The store -/

section
variable {ops : ι → Operation} {entry : Entry ι ν}

/-- The mark of an event comes with the statements that index it, and stays. -/
theorem Entry.Effect.shows (h : entry.Effect ops ix) (id : Int64) :
    (entry.before.Shows ix id false → (entry.after.Shows ix id true ↔ entry.Indexes ops id)) ∧
      (entry.before.Shows ix id true → entry.after.Shows ix id true) := by
  have hafter : ∀ indexed row, entry.before.event? id = some row → row.vector.isSome = indexed →
      (entry.after.Shows ix id true ↔ indexed = true ∨ entry.Indexes ops id) := by
    rintro _ row hrow rfl
    obtain ⟨-, v, hv, hiff⟩ := h.event_of_some hrow
    rw [Database.shows_iff, hv, ← hiff]
    simp
  constructor
  · intro hbefore
    obtain ⟨row, hrow, hvector⟩ := Database.shows_iff.mp hbefore
    simpa using hafter false row hrow hvector
  · intro hbefore
    obtain ⟨row, hrow, hvector⟩ := Database.shows_iff.mp hbefore
    simpa using hafter true row hrow hvector

end

variable [DecidableEq ι] {ops : ι → Operation} {es : List (Entry ι ν)} {w : World ι ν}

end Lookout.Storage
