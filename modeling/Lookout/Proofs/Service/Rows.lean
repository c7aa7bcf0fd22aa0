import Lookout.Proofs.IdElements
import Lookout.Service.Search

/-! The rows of a page, column by column, and their hits. Main statements: a row is read exactly if each of its columns
    holds a value of its type, or nothing where that is allowed; and the hit of a row carries what was read. -/

namespace Lookout

namespace Sql

namespace Cell

/-! ### Cells -/

/-- The cell holds this text. -/
def IsText (c : Cell) (s : String) : Prop := c = .text s

/-- The cell holds this truth value. -/
def IsBool (c : Cell) (b : Bool) : Prop := c = .bool b

/-- The cell holds this number of 32 bits. -/
def IsInt32 (c : Cell) (n : Int32) : Prop := ∃ i : ℤ, c = .int i ∧ Int32.ofInt i = n

/-- The cell holds this number of 64 bits. -/
def IsInt64 (c : Cell) (n : Int64) : Prop := ∃ i : ℤ, c = .int i ∧ Int64.ofInt i = n

/-- The cell holds this instant, in microseconds. -/
def IsInstant (c : Cell) (t : Time.Instant) : Prop := ∃ micros : ℤ, c = .int micros ∧ Time.Instant.ofMicros micros = t

/-- The cell holds this floating-point number. -/
def IsFloat (c : Cell) (x : Binary64) : Prop := c = .float x

/-- The cell is null, which is no value, or it holds the value. -/
inductive OrNull {α : Type} (Is : Cell → α → Prop) : Cell → Option α → Prop
  | null : OrNull Is .null none
  | value {c : Cell} {a : α} (h : Is c a) : OrNull Is c (some a)

/-- The reader gives the value of a cell that holds one, and none of a null. -/
structure Finds {α : Type} (read : Cell → Option α) (Is : Cell → α → Prop) : Prop where
  value : ∀ {c a}, read c = some a ↔ Is c a
  null : read .null = none

theorem finds_text : Finds text? IsText where
  value {c a} := by cases c <;> simp [text?, IsText]
  null := rfl

theorem finds_bool : Finds bool? IsBool where
  value {c a} := by cases c <;> simp [bool?, IsBool]
  null := rfl

theorem finds_int32 : Finds int32? IsInt32 where
  value {c a} := by cases c <;> simp [int32?, IsInt32]
  null := rfl

theorem finds_int64 : Finds int64? IsInt64 where
  value {c a} := by cases c <;> simp [int64?, IsInt64]
  null := rfl

theorem finds_instant : Finds instant? IsInstant where
  value {c a} := by cases c <;> simp [instant?, IsInstant]
  null := rfl

theorem finds_float : Finds float? IsFloat where
  value {c a} := by cases c <;> simp [float?, IsFloat]
  null := rfl

section
variable {α : Type} {read : Cell → Option α} {Is : Cell → α → Prop} {column : Column} {c : Cell}

theorem required_of_ne_null (h : c ≠ .null) :
    c.required column read = ((read c).map Except.ok).getD (.error (.mismatchedType column)) := by
  cases c with
  | null => exact absurd rfl h
  | _ => rfl

theorem nullable_of_ne_null (h : c ≠ .null) :
    c.nullable column read = ((read c).map fun a => Except.ok (some a)).getD (.error (.mismatchedType column)) := by
  cases c with
  | null => exact absurd rfl h
  | _ => rfl

theorem Finds.required (h : Finds read Is) {a : α} : c.required column read = .ok a ↔ Is c a := by
  by_cases hc : c = .null
  · subst hc
    exact ⟨nofun, fun hnull => by cases h.null.symm.trans (h.value.mpr hnull)⟩
  · rw [required_of_ne_null hc, ← h.value]
    cases read c <;> simp

theorem Finds.nullable (h : Finds read Is) {o : Option α} : c.nullable column read = .ok o ↔ OrNull Is c o := by
  by_cases hc : c = .null
  · subst hc
    constructor
    · rintro ⟨⟩
      exact .null
    · rintro (- | hnull)
      · rfl
      · cases h.null.symm.trans (h.value.mpr hnull)
  · rw [nullable_of_ne_null hc]
    constructor
    · intro hread
      obtain ⟨a, ha, rfl⟩ := getD_error_eq_ok.mp hread
      exact .value (h.value.mp ha)
    · rintro (- | hvalue)
      · exact absurd rfl hc
      · rw [h.value.mpr hvalue]
        rfl

end
end Cell

end Sql

namespace Service

open Sql (Cell Reply Row)

/-! ### Rows -/

/-- Each column of the row holds the value that the page has of it. Some columns may hold nothing. -/
structure Reads (row : Row) (found : FoundRow) : Prop where
  id : (row.cell "event_id").IsInt64 found.eventId
  camera : (row.cell "camera_id").IsText found.cameraId ∧ (row.cell "camera_name").IsText found.cameraName
  times : (row.cell "started_at").IsInstant found.startedAt ∧
    Cell.OrNull Cell.IsInstant (row.cell "ended_at") found.endedAt
  risk : Cell.OrNull Cell.IsInt32 (row.cell "risk_score") found.riskScore ∧
    Cell.OrNull Cell.IsText (row.cell "risk_level") found.riskLevel
  texts : Cell.OrNull Cell.IsText (row.cell "summary") found.summary ∧
    Cell.OrNull Cell.IsText (row.cell "reasoning") found.reasoning ∧
    Cell.OrNull Cell.IsText (row.cell "object_types") found.objectTypes
  reviewed : (row.cell "reviewed").IsBool found.reviewed
  detectionIds : Cell.OrNull Cell.IsText (row.cell "detection_ids") found.detectionIds
  score : (row.cell "relevance_score").IsFloat found.score

theorem ofRow_eq_ok {row : Row} {found : FoundRow} : FoundRow.ofRow row = .ok found ↔ Reads row found := by
  simp only [FoundRow.ofRow, bind, bind_eq_ok, pure, Except.pure, Except.ok.injEq, Row.required, Row.nullable,
    Cell.finds_int64.required, Cell.finds_text.required, Cell.finds_instant.required, Cell.finds_bool.required,
    Cell.finds_float.required, Cell.finds_text.nullable, Cell.finds_instant.nullable, Cell.finds_int32.nullable]
  constructor
  · rintro ⟨_, hid, _, hcamera, _, hname, _, hstart, _, hend, _, hscore, _, hlevel, _, hsummary, _, hreasoning, _,
      hreviewed, _, htypes, _, hids, _, hrelevance, rfl⟩
    exact ⟨hid, ⟨hcamera, hname⟩, ⟨hstart, hend⟩, ⟨hscore, hlevel⟩, ⟨hsummary, hreasoning, htypes⟩, hreviewed, hids,
      hrelevance⟩
  · rintro ⟨hid, ⟨hcamera, hname⟩, ⟨hstart, hend⟩, ⟨hscore, hlevel⟩, ⟨hsummary, hreasoning, htypes⟩, hreviewed, hids,
      hrelevance⟩
    exact ⟨_, hid, _, hcamera, _, hname, _, hstart, _, hend, _, hscore, _, hlevel, _, hsummary, _, hreasoning, _,
      hreviewed, _, htypes, _, hids, _, hrelevance, rfl⟩

/-- These are the rows of the answer, read. An answer that tells of changes has none. -/
inductive Lists : Reply → List FoundRow → Prop
  | rows {raw : List Row} {rows : List FoundRow} (h : List.Forall₂ Reads raw rows) : Lists (.rows raw) rows
  | changed (n : UInt64) : Lists (.affected n) []

theorem lists_rows {raw : List Row} {rows : List FoundRow} : Lists (.rows raw) rows ↔ List.Forall₂ Reads raw rows :=
  ⟨fun h => by cases h; assumption, .rows⟩

theorem lists_iff {r : Reply} {rows : List FoundRow} :
    Lists r rows ↔ (r.allRows.bind fun raw => raw.mapM FoundRow.ofRow) = .ok rows := by
  have hreads (raw : List Row) : raw.mapM FoundRow.ofRow = .ok rows ↔ List.Forall₂ Reads raw rows := by
    simp only [mapM_eq_ok_iff_forall₂, ofRow_eq_ok]
  cases r with
  | rows raw => exact lists_rows.trans (hreads raw).symm
  | affected n =>
    constructor
    · rintro ⟨⟩
      rfl
    · intro h
      obtain rfl := Except.ok.inj h
      exact .changed n
  | failed message => exact ⟨nofun, nofun⟩

/-! ### Hits -/

/-- The text in which the row has its ids. -/
def FoundRow.idText (row : FoundRow) : Option (List Char) := row.detectionIds.map String.toList

/-- The ids of the row, or why they cannot be read. -/
def FoundRow.ids (row : FoundRow) : Except IdList.Error (List Int64) :=
  IdList.ofStored (row.detectionIds.map String.toList)

/-- The hit carries the fields of the row, and its ids are those that the row has as text. -/
structure Shows (row : FoundRow) (hit : Hit) : Prop where
  id : hit.id = row.eventId
  camera : hit.cameraId = row.cameraId ∧ hit.cameraName = row.cameraName
  times : hit.startedAt = row.startedAt ∧ hit.endedAt = row.endedAt
  risk : hit.riskScore = row.riskScore ∧ hit.riskLevel = row.riskLevel
  texts : hit.summary = row.summary ∧ hit.reasoning = row.reasoning ∧ hit.objectTypes = row.objectTypes
  reviewed : hit.reviewed = row.reviewed
  detectionIds : IdList.ofStored (row.detectionIds.map String.toList) = .ok hit.detectionIds
  detectionCount : hit.detectionCount = UInt64.ofNat hit.detectionIds.length
  relevance : hit.relevance = row.score.clampUnit

variable {row : FoundRow} {hit : Hit}

theorem toHit_eq_ok : row.toHit = .ok hit ↔ Shows row hit := by
  constructor
  · intro h
    obtain ⟨ids, hids, hhit⟩ := bind_eq_ok.mp h
    obtain rfl := Except.ok.inj hhit
    exact ⟨rfl, ⟨rfl, rfl⟩, ⟨rfl, rfl⟩, ⟨rfl, rfl⟩, ⟨rfl, rfl, rfl⟩, rfl, hids, rfl, rfl⟩
  · intro h
    obtain ⟨hid, ⟨hcamera, hname⟩, ⟨hstart, hend⟩, ⟨hscore, hlevel⟩, ⟨hsummary, hreasoning, htypes⟩, hreviewed, hids,
      hcount, hrelevance⟩ := h
    refine bind_eq_ok.mpr ⟨hit.detectionIds, hids, congrArg Except.ok ?_⟩
    cases hit
    simp only at *
    subst_vars
    rfl

theorem toHit_eq_error {e : IdList.Error} : row.toHit = .error e ↔ row.ids = .error e := by
  rw [FoundRow.toHit, FoundRow.ids]
  cases IdList.ofStored (row.detectionIds.map String.toList) with
  | error e' => exact ⟨fun h => congrArg _ (Except.error.inj h), fun h => congrArg _ (Except.error.inj h)⟩
  | ok ids => exact ⟨nofun, nofun⟩

theorem hitsOfRows_eq_ok {rows : List FoundRow} {hits : List Hit} :
    hitsOfRows rows = .ok hits ↔ List.Forall₂ Shows rows hits := by
  simp only [hitsOfRows, mapM_eq_ok_iff_forall₂, toHit_eq_ok]

theorem exists_shows_iff : (∃ hit, Shows row hit) ↔ ∃ ids, row.ids = .ok ids := by
  simp only [← toHit_eq_ok]
  rw [FoundRow.ids]
  constructor
  · rintro ⟨hit, h⟩
    exact ⟨hit.detectionIds, (toHit_eq_ok.mp h).detectionIds⟩
  · rintro ⟨ids, h⟩
    exact ⟨_, bind_eq_ok.mpr ⟨ids, h, rfl⟩⟩

/-- Ids that are not decoded have an error. -/
theorem FoundRow.exists_error (h : ∀ ids, ¬ IdList.Decodes row.idText ids) : ∃ e, row.ids = .error e := by
  cases hids : row.ids with
  | error e => exact ⟨e, rfl⟩
  | ok ids => exact absurd (IdList.decodes_iff.mpr hids) (h ids)

end Service
end Lookout
