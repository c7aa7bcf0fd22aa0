import Lookout.Proofs.Dialogue.Consult
import Lookout.Proofs.Search.Listing
import Lookout.Proofs.Service.Rows
import Lookout.Proofs.Service.Search

/-! The pages of a search. Against a database that answers as it should, each page is a part of one listing, and
    the pages behind one another are the whole of it. -/

namespace Lookout.Service

open Search (Database EventRow IsListing window)
open Sql (Cell Statement Reply)

variable {ν κ : Type}

/-! ### The hits of events -/

/-- The event as it is read from a row. -/
def FoundRow.ofEvent (row : EventRow ν) (score : Binary64) : FoundRow where
  eventId := row.eventId
  cameraId := row.cameraId
  cameraName := row.cameraName
  startedAt := .ofMicros row.startedAt
  endedAt := row.endedAt.map .ofMicros
  riskScore := row.riskScore
  riskLevel := row.riskLevel
  summary := row.summary
  reasoning := row.reasoning
  reviewed := row.reviewed
  objectTypes := row.objectTypes
  detectionIds := row.detectionIds
  score := score

/-- The hit carries the event, with the score that the database gives it for the query. -/
def ShowsEvent (db : Database ν κ) (settings : Search.Settings) (query : String) (row : EventRow ν) (hit : Hit) :
    Prop :=
  Shows (.ofEvent row (db.engine.relevance settings query row)) hit

theorem forall₂_showsEvent_iff {db : Database ν κ} {settings : Search.Settings} {query : String}
    {shown : List (EventRow ν)} {hits : List Hit} :
    List.Forall₂ (ShowsEvent db settings query) shown hits ↔
      hitsOfRows (shown.map fun row => .ofEvent row (db.engine.relevance settings query row)) = .ok hits := by
  rw [hitsOfRows_eq_ok, List.forall₂_map_left_iff]
  rfl

theorem ofRow_returned (row : EventRow ν) (score : Binary64) :
    ∃ r, row.returned? score Search.columnNames = some r ∧ FoundRow.ofRow r = .ok (.ofEvent row score) := by
  refine ⟨_, rfl, ?_⟩
  have htext : ∀ column (o : Option String),
      (EventRow.textCell o).nullable column Cell.text? = .ok o := fun column o => by cases o <;> rfl
  have hinstant : ∀ column (o : Option Int),
      (o.elim .null Cell.int).nullable column Cell.instant? = .ok (o.map .ofMicros) :=
    fun column o => by cases o <;> rfl
  have hint : ∀ column (o : Option Int32),
      (o.elim .null fun i => Cell.int i.toInt).nullable column Cell.int32? = .ok o := by
    intro column o
    cases o with
    | none => rfl
    | some i => simp [Cell.nullable, Cell.int32?]
  have hid : (Cell.int row.eventId.toInt).required (.named "event_id") Cell.int64? = .ok row.eventId := by
    simp [Cell.required, Cell.int64?]
  simp only [FoundRow.ofRow, Sql.Row.required, Sql.Row.nullable, Sql.Row.cell, List.reverse_cons, List.reverse_nil,
    List.cons_append, List.nil_append, List.lookup_cons, String.reduceBEq, BEq.rfl, Option.getD_some, htext, hinstant,
    hint, hid]
  rfl

/-- If what `f` gives of each element is read as its image, the same holds for lists. -/
theorem exists_mapM {α β γ ε : Type} {f : α → Option β} {read : β → Except ε γ} {image : α → γ}
    (h : ∀ a, ∃ b, f a = some b ∧ read b = .ok (image a)) (l : List α) :
    ∃ bs, l.mapM f = some bs ∧ bs.mapM read = .ok (l.map image) := by
  induction l with
  | nil => exact ⟨[], rfl, rfl⟩
  | cons a l ih =>
    obtain ⟨b, hb, hread⟩ := h a
    obtain ⟨bs, hbs, hreads⟩ := ih
    refine ⟨b :: bs, ?_, ?_⟩
    · rw [List.mapM_cons, hb, hbs]
      rfl
    · rw [List.mapM_cons, hread, hreads]
      rfl

/-- The hits of a part of the listing are read from the rows that a page returns of it. -/
theorem exists_rows (db : Database ν κ) (settings : Search.Settings) (query : String) (shown : List (EventRow ν)) :
    ∃ rows, shown.mapM (fun row => row.returned? (db.engine.relevance settings query row) Search.columnNames) =
        some rows ∧
      ∀ hits, List.Forall₂ (ShowsEvent db settings query) shown hits → readHits (.rows rows) = .ok hits := by
  obtain ⟨rows, hrows, hread⟩ :=
    exists_mapM (fun row => ofRow_returned row (db.engine.relevance settings query row)) shown
  refine ⟨rows, hrows, fun hits hhits => ?_⟩
  have hall : ((Reply.rows rows).allRows.bind fun rows => rows.mapM FoundRow.ofRow) =
      .ok (shown.map fun row => FoundRow.ofEvent row (db.engine.relevance settings query row)) := hread
  rw [readHits, hall]
  exact mapError_eq_ok.mpr (forall₂_showsEvent_iff.mp hhits)

theorem readTotal_count {n : Nat} (h : n < 9223372036854775808) :
    ∃ total, readTotal (.rows [[("count", .int n)]]) = .ok total ∧ total.toNat = n := by
  refine ⟨(Int64.ofNat n).toUInt64, ?_, ?_⟩
  · have hread : ((Reply.rows [[("count", .int n)]]).firstRow.bind fun row => row.only "count" Cell.int64?) =
        .ok (Int64.ofNat n) := rfl
    have hnonneg : ¬ Int64.ofNat n < 0 := by
      rw [Int64.lt_iff_toInt_lt, Int64.toInt_ofNat_of_lt h]
      simp
    rw [readTotal, hread]
    simp only [if_neg hnonneg]
  · rw [Int64.toUInt64_ofNat', UInt64.toNat_ofNat']
    omega

/-! ### Pages -/

/-- The result of a search whose statements are answered in this way, if it ends. -/
def result? (answer : Statement → Reply) (settings : Search.Settings) (query : String) (filters : Filters)
    (limit offset : UInt32) : Option (Except Error Response) :=
  ((search settings query filters limit offset).run.consult answer).map Prod.snd

/-- What a search results in is what it results in when it is replayed with these answers. -/
theorem replays_of_result? {answer : Statement → Reply} {settings : Search.Settings} {query : String} {filters : Filters}
    {limit offset : UInt32} {r : Except Error Response}
    (h : result? answer settings query filters limit offset = some r) :
    ∃ events, Dialogue.Replays answer (search settings query filters limit offset).run (events, r) := by
  obtain ⟨⟨events, r'⟩, hrun, rfl⟩ := Option.map_eq_some_iff.mp h
  exact ⟨events, Dialogue.replays_of_consult hrun⟩

/-- A search succeeds if the hits of its part of the listing can be read. -/
theorem result?_page {db : Database ν κ} {answer : Statement → Reply} {settings : Search.Settings} {query : String}
    {filters : Filters} {listing : List (EventRow ν)} {total : UInt64}
    (hanswers : db.Answers answer)
    (hsendable : (Search.Plan.ofRequest settings query filters).conditions.all isSendable = true)
    (hlisting : IsListing db settings query filters listing)
    (htotal : readTotal (.rows [[("count", .int listing.length)]]) = .ok total)
    (hlength : total.toNat = listing.length)
    {limit offset : UInt32} {hits : List Hit}
    (hhits : List.Forall₂ (ShowsEvent db settings query) (window limit.toNat offset.toNat listing) hits) :
    result? answer settings query filters limit offset = some (.ok ⟨hits, total, limit, offset⟩) := by
  have hcount := hanswers.count hlisting
  rw [result?, run_search]
  simp only [hsendable, if_true, Dialogue.consult, hcount, htotal, Option.map_map]
  unfold afterCount
  -- An empty page is not asked for, and its part of the listing is empty too.
  by_cases hpage : limit = 0 ∨ total ≤ offset.toUInt64
  · have hempty : window limit.toNat offset.toNat listing = [] := by
      rcases hpage with rfl | hle
      · exact List.take_zero
      · rw [UInt64.le_iff_toNat_le, hlength, UInt32.toNat_toUInt64] at hle
        rw [window, List.drop_eq_nil_of_le hle, List.take_nil]
    rw [hempty] at hhits
    obtain rfl := List.forall₂_nil_left_iff.mp hhits
    rw [if_pos hpage]
    rfl
  · obtain ⟨rows, hrows, hread⟩ := exists_rows db settings query (window limit.toNat offset.toNat listing)
    have hreply := hanswers.page hlisting limit offset hrows
    rw [if_neg hpage]
    simp only [Dialogue.consult, hreply, hread hits hhits]
    rfl

/-- The offsets of the pages behind one another: the multiples of the limit below the total. -/
def pageOffsets (limit total : Nat) : List Nat := (List.range ((total + limit - 1) / limit)).map (· * limit)

theorem lt_ceilDiv_iff {limit total i : Nat} (h : 0 < limit) :
    i < (total + limit - 1) / limit ↔ i * limit < total := by
  rw [← Nat.succ_le_iff, Nat.le_div_iff_mul_le h, Nat.succ_mul]
  omega

theorem mem_pageOffsets {limit total o : Nat} (h : 0 < limit) :
    o ∈ pageOffsets limit total ↔ o < total ∧ limit ∣ o := by
  rw [pageOffsets, List.mem_map]
  constructor
  · rintro ⟨i, hi, rfl⟩
    exact ⟨(lt_ceilDiv_iff h).mp (List.mem_range.mp hi), Nat.dvd_mul_left limit i⟩
  · rintro ⟨ho, i, rfl⟩
    exact ⟨i, List.mem_range.mpr ((lt_ceilDiv_iff h).mpr (Nat.mul_comm limit i ▸ ho)), Nat.mul_comm i limit⟩

/-- The pages behind one another are the whole list. -/
theorem flatMap_window {α : Type} {limit : Nat} (h : 0 < limit) (l : List α) :
    (pageOffsets limit l.length).flatMap (fun o => window limit o l) = l := by
  have htake : ∀ n, (List.range n).flatMap (fun i => window limit (i * limit) l) = l.take (n * limit) := by
    intro n
    induction n with
    | zero => simp
    | succ n ih =>
      rw [List.range_succ, List.flatMap_append, ih, List.flatMap_singleton, window, Nat.add_one_mul, List.take_add]
  have hlength : l.length ≤ (l.length + limit - 1) / limit * limit :=
    Nat.not_lt.mp fun hlt => Nat.lt_irrefl _ ((lt_ceilDiv_iff h).mpr hlt)
  rw [pageOffsets, List.flatMap_map, htake, List.take_of_length_le hlength]

/-- Against a database, each page of a search is its part of one listing, the count is the length of the listing,
    and the pages behind one another are the whole of it. -/
theorem search_shows_listing (db : Database ν κ) {answer : Statement → Reply} (hanswers : db.Answers answer)
    (settings : Search.Settings) (query : String) (filters : Filters)
    (hstart : ∀ t, filters.startDate = some t → t.date.year ≤ 9999)
    (hend : ∀ t, filters.endDate = some t → t.date.year ≤ 9999) :
    ∃ (listing : List (EventRow ν)) (total : UInt64),
      (∀ l, IsListing db settings query filters l ↔ l = listing) ∧ total.toNat = listing.length ∧
      (∀ limit offset hits,
        List.Forall₂ (ShowsEvent db settings query) (window limit.toNat offset.toNat listing) hits →
        let response : Except Error Response := .ok ⟨hits, total, limit, offset⟩
        result? answer settings query filters limit offset = some response ∧
        ∃ events, Dialogue.Replays answer (search settings query filters limit offset).run (events, response)) ∧
      (∀ limit hits, limit ≠ 0 → listing.length < 4294967296 →
        List.Forall₂ (ShowsEvent db settings query) listing hits →
        ∃ pages : List Response,
          (pageOffsets limit.toNat listing.length).map
              (fun o => result? answer settings query filters limit (.ofNat o)) =
            pages.map (fun page => some (.ok page)) ∧
          pages.flatMap Response.hits = hits) := by
  obtain ⟨listing, hlisting⟩ := Search.exists_isListing db settings query filters
  obtain ⟨total, htotal, hlength⟩ := readTotal_count hlisting.length_lt
  have hsendable : (Search.Plan.ofRequest settings query filters).conditions.all isSendable = true := by
    rw [List.all_eq_true]
    refine (Search.forall_conditions filters (isSendable · = true)).mpr ⟨fun t ht => ?_, fun t ht => ?_, ?_⟩
    · exact decide_eq_true (hstart t ht)
    · exact decide_eq_true (hend t ht)
    · exact ⟨fun _ => rfl, fun _ => rfl, fun _ => rfl, fun _ _ => rfl⟩
  have hpage : ∀ limit offset hits,
      List.Forall₂ (ShowsEvent db settings query) (window limit.toNat offset.toNat listing) hits →
      result? answer settings query filters limit offset = some (.ok ⟨hits, total, limit, offset⟩) :=
    fun limit offset hits hhits => result?_page hanswers hsendable hlisting htotal hlength hhits
  refine ⟨listing, total, fun l => ⟨fun hl => hl.unique hlisting, fun hl => hl ▸ hlisting⟩, hlength,
    fun limit offset hits hhits => ⟨hpage limit offset hits hhits, replays_of_result? (hpage limit offset hits hhits)⟩, ?_⟩
  intro limit hits hlimit hcount hhits
  have hpositive : 0 < limit.toNat := Nat.pos_of_ne_zero fun h => hlimit (UInt32.toNat_inj.mp h)
  -- Each page shows its part of the hits, since the hits stand for the listing place by place.
  refine ⟨(pageOffsets limit.toNat listing.length).map fun o => ⟨window limit.toNat o hits, total, limit, .ofNat o⟩,
    ?_, ?_⟩
  · rw [List.map_map]
    refine List.map_congr_left fun o ho => hpage limit (.ofNat o) _ ?_
    have hoffset : (UInt32.ofNat o).toNat = o :=
      UInt32.toNat_ofNat_of_lt' (Nat.lt_trans ((mem_pageOffsets hpositive).mp ho).1 hcount)
    rw [hoffset]
    exact List.forall₂_take _ (List.forall₂_drop _ hhits)
  · rw [List.flatMap_map, hhits.length_eq]
    exact flatMap_window hpositive hits

/-- An engine for queries of plain words. Every event that it finds has the rank of a word that occurs once. -/
def wordEngine : Search.Engine (List String) (List String) where
  read _ _ text := (Text.words text.toList).map String.ofList
  finds v q := q.all v.contains
  score scale q v := if v.any fun v => q.all v.contains then scale.mul ⟨4588921973962178560⟩ else .zero
  folding := .latin

/-- An event at the front door. -/
def frontDoor (id : Int64) (startedAt : Int) (summary : String) (vector : Option (List String)) :
    EventRow (List String) :=
  ⟨id, "front", "Front door", startedAt, none, none, none, some summary, none, false, none, some "[7]", vector⟩

/-- Three events with a person, of which the latest is not indexed yet, and one without. -/
def frontDoorDatabase : Database (List String) (List String) where
  engine := wordEngine
  rows := [frontDoor 1 10 "a person" (some ["a", "person"]), frontDoor 2 20 "Person!" none,
    frontDoor 3 10 "person" (some ["person"]), frontDoor 4 30 "car" (some ["car"])]
  distinct := by decide
  countable := by decide

/-- All events from the start of 1970 on. -/
def since1970 : Filters := { Filters.unset with startDate := some ⟨0⟩ }

theorem search_shows_front_door :
    (result? frontDoorDatabase.answer ⟨"english", .one⟩ "person" since1970 2 0).map
        (·.map fun page => (page.hits.map Hit.id, page.totalCount)) = some (.ok ([3, 1], 3)) := by
  have hstart : ∀ t, since1970.startDate = some t → t.date.year ≤ 9999 := by
    rintro t ⟨⟩
    decide
  obtain ⟨listing, total, hunique, hlength, hpage, -⟩ := search_shows_listing frontDoorDatabase
    frontDoorDatabase.answers_answer ⟨"english", .one⟩ "person" since1970 hstart nofun
  have hselected : frontDoorDatabase.selected (frontDoorDatabase.engine.indexQuery? ⟨"english", .one⟩ "person")
      (Search.Plan.ofRequest ⟨"english", .one⟩ "person" since1970).formula = frontDoorDatabase.rows.take 3 := rfl
  have hlisting : IsListing frontDoorDatabase ⟨"english", .one⟩ "person" since1970
      [frontDoor 3 10 "person" (some ["person"]), frontDoor 1 10 "a person" (some ["a", "person"]),
        frontDoor 2 20 "Person!" none] := by
    refine ⟨by decide +kernel, fun row => ?_⟩
    rw [← Search.mem_selected, hselected]
    simp only [frontDoorDatabase, List.take_succ_cons, List.take_zero, List.mem_cons, List.not_mem_nil, or_false]
    tauto
  obtain rfl := (hunique _).mp hlisting
  obtain rfl : total = 3 := UInt64.toNat_inj.mp hlength
  have hhits : List.Forall₂ (ShowsEvent frontDoorDatabase ⟨"english", .one⟩ "person")
      [frontDoor 3 10 "person" (some ["person"]), frontDoor 1 10 "a person" (some ["a", "person"])] _ :=
    forall₂_showsEvent_iff.mpr rfl
  obtain ⟨hresult, -⟩ := hpage 2 0 _ hhits
  rw [hresult]
  rfl

end Lookout.Service
