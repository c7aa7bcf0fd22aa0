import Lookout.Proofs.Sql.Update
import Lookout.Storage.Operations
import Mathlib.Data.List.Nodup

/-! The table of events under the statements that index events. The vector that these give to an event is never
    null, whatever texts the event lacks, so an event that is indexed once leaves the events without a vector for
    good. -/

namespace Lookout.Storage

open Sql (Cell Datum Expression Indexer Param Reply Statement Target Update)

/-- An event of the table. Its vector is absent as long as the event is not indexed. -/
structure StoredEvent (ν : Type) extends NewEvent where
  eventId : Int64
  vector : Option ν

/-- The events of the table in the order of their ids, which are distinct. A number of 64 bits can count them. -/
structure Table (ν : Type) where
  rows : List (StoredEvent ν)
  ascending : (rows.map StoredEvent.eventId).Pairwise (· < ·)
  countable : rows.length < 18446744073709551616

variable {ν : Type}

/-- The cell of a text that may be missing. -/
def textCell (s : Option String) : Cell := s.elim .null .text

/-- A column of an event. -/
def StoredEvent.column? (row : StoredEvent ν) (column : String) : Option (Datum ν) :=
  match column with
  | "event_id" => some (.cell (.int row.eventId.toInt))
  | "camera_id" => some (.cell (.text row.cameraId))
  | "started_at" => some (.cell (.int row.startedAt.toMicros))
  | "ended_at" => some (.cell (row.endedAt.elim .null fun t => .int t.toMicros))
  | "risk_score" => some (.cell (row.riskScore.elim .null fun i => .int i.toInt))
  | "risk_level" => some (.cell (textCell row.riskLevel))
  | "summary" => some (.cell (textCell row.summary))
  | "reasoning" => some (.cell (textCell row.reasoning))
  | "reviewed" => some (.cell (.bool row.reviewed))
  | "object_types" => some (.cell (textCell row.objectTypes))
  | "detection_ids" => some (.cell (textCell row.detectionIds))
  | "search_vector" => some (.vector row.vector)
  | _ => none

namespace Table

/-- The ids of all events. -/
def ids (t : Table ν) : List Int64 := t.rows.map StoredEvent.eventId

/-- The ids of the events that have no vector. -/
def unindexed (t : Table ν) : List Int64 := (t.rows.filter (·.vector.isNone)).map StoredEvent.eventId

/-- The ids of the events that have a vector. -/
def indexed (t : Table ν) : List Int64 := (t.rows.filter (·.vector.isSome)).map StoredEvent.eventId

/-- The table in which the events for which there is a value have it as their vector. -/
def setVectors (t : Table ν) (value : StoredEvent ν → Option (Option ν)) : Table ν where
  rows := t.rows.map fun row => (value row).elim row fun v => { row with vector := v }
  ascending := by
    have hids : (t.rows.map fun row => (value row).elim row fun v => { row with vector := v }).map
        StoredEvent.eventId = t.rows.map StoredEvent.eventId := by
      rw [List.map_map]
      exact List.map_congr_left fun row _ => by cases h : value row <;> simp [h]
    rw [hids]
    exact t.ascending
  countable := by
    rw [List.length_map]
    exact t.countable

/-! ### Statements that change events -/

/-- The ids that a statement changes, none if the types of its values do not agree. -/
def targets? (t : Table ν) : Target Param → Option (List Int64)
  | .one (.int8 eventId) => some (t.ids.filter (· == eventId))
  | .unindexed (.int8 limit) => some (t.unindexed.take limit.toNatClampNeg)
  | _ => none

/-- What a statement makes of the table, and its answer: the number of events that were changed. It changes all of
    them or has no answer, if the types in it do not agree. -/
def perform? (ix : Indexer ν) (t : Table ν) (u : Update Param) : Option (Table ν × Reply) :=
  (t.targets? u.target).bind fun ids =>
    let value := fun row : StoredEvent ν => u.value.vector? ix row.column?
    if t.rows.all fun row => !ids.contains row.eventId || (value row).isSome then
      some (t.setVectors fun row => if ids.contains row.eventId then value row else none,
        .affected (UInt64.ofNat ids.length))
    else none

/-- The table after a statement, and its answer. -/
def execute? (ix : Indexer ν) (t : Table ν) (s : Statement) : Option (Table ν × Reply) :=
  ((Update.read? s.sql.toList).bind fun u => u.bind? s.params).bind (t.perform? ix)

end Table

/-! ### What the statements say -/

/-- A text of an event in its index entry. An absent one counts as empty. -/
def weighted {β : Type} (config : β) (column weight : String) : Expression β :=
  .call "setweight" (.call "to_tsvector" (.config config) (.call "COALESCE" (.column column) (.text "")))
    (.text weight)

/-- The expression for the vector of an event: its summary, its object types and its reasoning, each with its weight. -/
def entryExpression {β : Type} (config : β) : Expression β :=
  .call "||"
    (.call "||" (weighted config "summary" "A") (weighted config "object_types" "B")) (weighted config "reasoning" "C")

/-- The tokens of a column with its weight. -/
def weightedTokens (column weight : String) : List String :=
  ["setweight", "(", "to_tsvector", "(", "$1", "::", "regconfig", ",", "COALESCE", "(", column, ",", "''", ")", ")", ",",
    "'", weight, "'", ")"]

/-- The tokens of a statement that indexes events. -/
def indexTokens (target : List String) : List String :=
  ["UPDATE", "events", "SET", "search_vector", "="] ++ weightedTokens "summary" "A" ++ "|" :: "|" ::
    weightedTokens "object_types" "B" ++ "|" :: "|" :: weightedTokens "reasoning" "C" ++ "WHERE" :: target

theorem tokens_backfillStatement (config : String) (batch : UInt32) :
    Sql.tokens (backfillStatement config batch).sql.toList =
      indexTokens ["event_id", "IN", "(", "SELECT", "event_id", "FROM", "events", "WHERE", "search_vector", "IS", "NULL",
        "ORDER", "BY", "event_id", "LIMIT", "$2", ")"] := by
  refine Sql.tokens_eq ?_
  unfold backfillStatement searchVector
  simp only [String.toList_append, String.reduceToList]
  decide +kernel

theorem tokens_indexEventStatement (eventId : Int64) (config : String) :
    Sql.tokens (indexEventStatement eventId config).sql.toList = indexTokens ["event_id", "=", "$2"] := by
  refine Sql.tokens_eq ?_
  unfold indexEventStatement searchVector
  simp only [String.toList_append, String.reduceToList]
  decide +kernel

theorem reads_backfillStatement (config : String) (batch : UInt32) :
    (Update.read? (backfillStatement config batch).sql.toList).bind
        (·.bind? (backfillStatement config batch).params)
      = some ⟨entryExpression (.text config), .unindexed (.int8 (Int64.ofNat batch.toNat))⟩ := by
  have hread : Update.read? (backfillStatement config batch).sql.toList = some ⟨entryExpression 1, .unindexed 2⟩ := by
    rw [Update.read?, tokens_backfillStatement]
    decide +kernel
  rw [hread]
  rfl

theorem reads_indexEventStatement (eventId : Int64) (config : String) :
    (Update.read? (indexEventStatement eventId config).sql.toList).bind
        (·.bind? (indexEventStatement eventId config).params)
      = some ⟨entryExpression (.text config), .one (.int8 eventId)⟩ := by
  have hread : Update.read? (indexEventStatement eventId config).sql.toList = some ⟨entryExpression 1, .one 2⟩ := by
    rw [Update.read?, tokens_indexEventStatement]
    decide +kernel
  rw [hread]
  rfl

/-! ### What the statements do -/

/-- The vector of an event. -/
def entry (ix : Indexer ν) (config : String) (e : NewEvent) : ν :=
  let part (weight : String) (s : Option String) := ix.weigh weight (ix.vector config (s.getD ""))
  ix.join (ix.join (part "A" e.summary) (part "B" e.objectTypes)) (part "C" e.reasoning)

/-- The index entry is never null, whichever texts the event lacks. -/
theorem vector?_entryExpression (ix : Indexer ν) (config : String) (row : StoredEvent ν) :
    (entryExpression (.text config)).vector? ix row.column? = some (some (entry ix config row.toNewEvent)) := by
  obtain ⟨⟨cameraId, startedAt, endedAt, riskScore, riskLevel, summary, reasoning, reviewed, objectTypes,
    detectionIds⟩, eventId, vector⟩ := row
  cases summary <;> cases objectTypes <;> cases reasoning <;> rfl

/-- The event after those that are chosen have been indexed. -/
def StoredEvent.entered (ix : Indexer ν) (config : String) (chosen : List Int64) (row : StoredEvent ν) : StoredEvent ν :=
  if row.eventId ∈ chosen then { row with vector := some (entry ix config row.toNewEvent) } else row

section
variable (ix : Indexer ν) (config : String) {chosen : List Int64} (row : StoredEvent ν)

theorem StoredEvent.entered_of_mem (h : row.eventId ∈ chosen) :
    row.entered ix config chosen = { row with vector := some (entry ix config row.toNewEvent) } := if_pos h

theorem StoredEvent.entered_of_notMem (h : row.eventId ∉ chosen) : row.entered ix config chosen = row := if_neg h

end

namespace Table

/-- The table in which the chosen events are indexed. -/
def index (ix : Indexer ν) (config : String) (t : Table ν) (chosen : List Int64) : Table ν :=
  t.setVectors fun row => if chosen.contains row.eventId then some (some (entry ix config row.toNewEvent)) else none

theorem perform?_entryExpression {ix : Indexer ν} {t : Table ν} {target : Target Param} {chosen : List Int64}
    (h : t.targets? target = some chosen) (config : String) :
    t.perform? ix ⟨entryExpression (.text config), target⟩ =
      some (t.index ix config chosen, .affected (UInt64.ofNat chosen.length)) := by
  rw [perform?, h, Option.bind_some]
  simp [vector?_entryExpression, index]

theorem targets?_unindexed (t : Table ν) (batch : UInt32) :
    t.targets? (.unindexed (.int8 (Int64.ofNat batch.toNat))) = some (t.unindexed.take batch.toNat) := by
  have hlimit : (Int64.ofNat batch.toNat).toNatClampNeg = batch.toNat :=
    Int64.toNatClampNeg_ofNat_of_lt (Nat.lt_of_lt_of_le batch.toNat_lt (by decide))
  rw [targets?, hlimit]

theorem execute?_backfillStatement (ix : Indexer ν) (t : Table ν) (config : String) (batch : UInt32) :
    t.execute? ix (backfillStatement config batch) =
      some (t.index ix config (t.unindexed.take batch.toNat),
        .affected (UInt64.ofNat (t.unindexed.take batch.toNat).length)) := by
  rw [execute?, reads_backfillStatement, Option.bind_some]
  exact perform?_entryExpression (t.targets?_unindexed batch) config

theorem execute?_indexEventStatement (ix : Indexer ν) (t : Table ν) (eventId : Int64) (config : String) :
    t.execute? ix (indexEventStatement eventId config) =
      some (t.index ix config (t.ids.filter (· == eventId)),
        .affected (UInt64.ofNat (t.ids.filter (· == eventId)).length)) := by
  rw [execute?, reads_indexEventStatement, Option.bind_some]
  exact perform?_entryExpression rfl config

/-! ### Events with and without a vector -/

section
variable {t t' : Table ν} {id : Int64}

theorem mem_unindexed : id ∈ t.unindexed ↔ ∃ row ∈ t.rows, row.eventId = id ∧ row.vector = none := by
  simp [unindexed, and_comm, and_assoc]

theorem ids_nodup (t : Table ν) : t.ids.Nodup := t.ascending.imp fun h => Int64.ne_of_lt h

theorem unindexed_sublist (t : Table ν) : t.unindexed.Sublist t.ids := List.filter_sublist.map _

theorem unindexed_nodup (t : Table ν) : t.unindexed.Nodup := t.ids_nodup.sublist t.unindexed_sublist

/-- The events with a vector are those that are not without one. -/
theorem mem_indexed : id ∈ t.indexed ↔ id ∈ t.ids ∧ id ∉ t.unindexed := by
  constructor
  · intro h
    obtain ⟨row, hmem, rfl⟩ := List.mem_map.mp h
    obtain ⟨hrow, hsome⟩ := List.mem_filter.mp hmem
    refine ⟨List.mem_map_of_mem hrow, fun hnone => ?_⟩
    obtain ⟨row', hrow', hid, hnull⟩ := mem_unindexed.mp hnone
    obtain rfl := List.inj_on_of_nodup_map t.ids_nodup hrow' hrow hid
    rw [hnull] at hsome
    cases hsome
  · rintro ⟨h, hnone⟩
    obtain ⟨row, hrow, rfl⟩ := List.mem_map.mp h
    refine List.mem_map.mpr ⟨row, List.mem_filter.mpr ⟨hrow, ?_⟩, rfl⟩
    rw [Option.isSome_iff_ne_none]
    exact fun hv => hnone (mem_unindexed.mpr ⟨row, hrow, rfl, hv⟩)

/-- The events that have no vector in the first table and have one in the second. -/
def turned (t t' : Table ν) : List Int64 := t.unindexed.filter fun id => t'.indexed.contains id

theorem mem_turned : id ∈ t.turned t' ↔ id ∈ t.unindexed ∧ id ∈ t'.indexed := by
  simp [turned]

/-! ### Indexing -/

theorem take_append_drop_disjoint {l : List Int64} (h : l.Nodup) (n : Nat) : ∀ id ∈ l.drop n, id ∉ l.take n := by
  rw [← List.take_append_drop n l, List.nodup_append] at h
  exact fun id hdrop htake => h.2.2 id htake id hdrop rfl

theorem filter_take {l : List Int64} (h : l.Nodup) (n : Nat) : (l.filter fun id => (l.take n).contains id) = l.take n := by
  conv_lhs => arg 2; rw [← List.take_append_drop n l]
  rw [List.filter_append, List.filter_eq_self.mpr fun id hid => by simp [hid],
    List.filter_eq_nil_iff.mpr fun id hid => by simp [take_append_drop_disjoint h n id hid], List.append_nil]

theorem filter_drop {l : List Int64} (h : l.Nodup) (n : Nat) :
    (l.filter fun id => !(l.take n).contains id) = l.drop n := by
  conv_lhs => arg 2; rw [← List.take_append_drop n l]
  rw [List.filter_append, List.filter_eq_nil_iff.mpr fun id hid => by simp [hid],
    List.filter_eq_self.mpr fun id hid => by simp [take_append_drop_disjoint h n id hid], List.nil_append]

variable (ix : Indexer ν) (config : String) (chosen : List Int64)

theorem rows_index : (t.index ix config chosen).rows = t.rows.map (·.entered ix config chosen) := by
  refine List.map_congr_left fun row _ => ?_
  rw [StoredEvent.entered]
  split <;> simp [*]

theorem mem_rows_index {row : StoredEvent ν} (hrow : row ∈ t.rows) (hid : row.eventId ∉ chosen) :
    row ∈ (t.index ix config chosen).rows := by
  rw [rows_index]
  exact List.mem_map.mpr ⟨row, hrow, row.entered_of_notMem ix config hid⟩

/-- The chosen events leave those without a vector, and the others keep their order. -/
theorem unindexed_index : (t.index ix config chosen).unindexed = t.unindexed.filter fun id => !chosen.contains id := by
  rw [unindexed, unindexed, rows_index]
  induction t.rows with
  | nil => rfl
  | cons row rows ih =>
    by_cases hid : row.eventId ∈ chosen
    · cases hv : row.vector <;> simp [row.entered_of_mem ix config hid, hv, hid, ih]
    · cases hv : row.vector <;> simp [row.entered_of_notMem ix config hid, hv, hid, ih]

theorem ids_index : (t.index ix config chosen).ids = t.ids := by
  rw [Table.ids, Table.ids, rows_index, List.map_map]
  refine List.map_congr_left fun row _ => ?_
  rw [Function.comp_apply, StoredEvent.entered]
  split <;> rfl

theorem turned_index : t.turned (t.index ix config chosen) = t.unindexed.filter fun id => chosen.contains id := by
  refine List.filter_congr fun id hid => ?_
  have hids : id ∈ t.ids := t.unindexed_sublist.mem hid
  rw [Bool.eq_iff_iff, List.contains_iff_mem, List.contains_iff_mem, mem_indexed, ids_index, unindexed_index]
  simp [hid, hids]

/-- Between the tables these events were recorded, and no event lost its vector. Each event without a vector, in the
    first table or recorded since, is turned or still has none. -/
structure Grows (t : Table ν) (recorded : List Int64) (t' : Table ν) : Prop where
  balance : (t.unindexed ++ recorded).Perm (t.turned t' ++ t'.unindexed)
  indexed : ∀ id ∈ t.indexed, id ∈ t'.indexed

theorem grows_index : t.Grows [] (t.index ix config chosen) where
  balance := by
    rw [List.append_nil, turned_index, unindexed_index]
    exact (List.filter_append_perm _ _).symm
  indexed id hid := by
    obtain ⟨hids, hnone⟩ := mem_indexed.mp hid
    rw [mem_indexed, ids_index, unindexed_index]
    exact ⟨hids, fun h => hnone (List.mem_filter.mp h).1⟩

theorem turned_batch (n : Nat) :
    t.turned (t.index ix config (t.unindexed.take n)) = t.unindexed.take n := by
  rw [turned_index]
  exact filter_take t.unindexed_nodup n

theorem unindexed_batch (n : Nat) :
    (t.index ix config (t.unindexed.take n)).unindexed = t.unindexed.drop n := by
  rw [unindexed_index]
  exact filter_drop t.unindexed_nodup n

/-! ### New events -/

/-- The second table is the first with these events in it, none of which has a vector. -/
structure Inserts (t : Table ν) (new : List (StoredEvent ν)) (t' : Table ν) : Prop where
  rows : t'.rows.Perm (new ++ t.rows)
  unindexed : ∀ row ∈ new, row.vector = none

variable {new : List (StoredEvent ν)}

theorem Inserts.perm_unindexed (h : t.Inserts new t') :
    t'.unindexed.Perm (new.map StoredEvent.eventId ++ t.unindexed) := by
  have hnew : new.filter (·.vector.isNone) = new :=
    List.filter_eq_self.mpr fun row hrow => by rw [h.unindexed row hrow]; rfl
  have hperm := (h.rows.filter (·.vector.isNone)).map StoredEvent.eventId
  rwa [List.filter_append, List.map_append, hnew] at hperm

theorem Inserts.turned_eq_nil (h : t.Inserts new t') : t.turned t' = [] := by
  refine List.filter_eq_nil_iff.mpr fun id hid => ?_
  have hnone : id ∈ t'.unindexed := h.perm_unindexed.mem_iff.mpr (List.mem_append_right _ hid)
  simp [mem_indexed, hnone]

theorem Inserts.grows (h : t.Inserts new t') : t.Grows (new.map StoredEvent.eventId) t' where
  balance := by
    rw [h.turned_eq_nil, List.nil_append]
    exact List.perm_append_comm.trans h.perm_unindexed.symm
  indexed id hid := by
    obtain ⟨row, hmem, rfl⟩ := List.mem_map.mp hid
    obtain ⟨hrow, hsome⟩ := List.mem_filter.mp hmem
    have hrow' : row ∈ t'.rows := h.rows.mem_iff.mpr (List.mem_append_right _ hrow)
    exact List.mem_map_of_mem (List.mem_filter.mpr ⟨hrow', hsome⟩)

end

end Table

end Lookout.Storage
