import Lookout.Proofs.Dialogue.Progress
import Lookout.Proofs.Search.Selection
import Lookout.Proofs.Service.Rows
import Lookout.Proofs.Service.Search

/-! How a search ends, whatever the database answers. It sends the count and then the page at most, and it gives a
    whole response or an error: of the database, if an answer cannot be read, and else of the first list of ids that
    cannot be read. -/

namespace Lookout.Service

open Sql (Reply Row Cell)

/-! ### The answers -/

/-- The answer holds this number of events in its first row. -/
inductive Totals : Reply → UInt64 → Prop
  | row {row : Row} {rest : List Row} {i : Int} (hcell : row.cell "count" = .int i) (hpositive : 0 ≤ Int64.ofInt i) :
      Totals (.rows (row :: rest)) (Int64.ofInt i).toUInt64

/-- The answer holds no number of events, and this is the error about it. -/
inductive Uncounted : Reply → Error → Prop
  | refused (message : String) : Uncounted (.failed message) (.sql (.refused message))
  | changed (n : UInt64) : Uncounted (.affected n) (.sql .noRow)
  | empty : Uncounted (.rows []) (.sql .noRow)
  | null {row : Row} {rest : List Row} (hcell : row.cell "count" = .null) :
      Uncounted (.rows (row :: rest)) (.sql (.unexpectedNull .first))
  | mismatched {row : Row} {rest : List Row} (hnull : row.cell "count" ≠ .null) (hcell : ∀ i, row.cell "count" ≠ .int i) :
      Uncounted (.rows (row :: rest)) (.sql (.mismatchedType .first))
  | negative {row : Row} {rest : List Row} {i : Int} (hcell : row.cell "count" = .int i) (hnegative : Int64.ofInt i < 0) :
      Uncounted (.rows (row :: rest)) (.negativeCount (Int64.ofInt i))

theorem readTotal_rows (row : Row) (rest : List Row) :
    readTotal (.rows (row :: rest)) =
      match (row.cell "count").required .first Cell.int64? with
      | .error e => .error (.sql e)
      | .ok n => if n < 0 then .error (.negativeCount n) else .ok n.toUInt64 := rfl

theorem readTotal_eq_ok {r : Reply} {total : UInt64} (h : Totals r total) : readTotal r = .ok total := by
  obtain ⟨hcell, hpositive⟩ := h
  rw [readTotal_rows, hcell]
  exact if_neg (Int64.not_lt.mpr hpositive)

theorem readTotal_eq_error {r : Reply} {e : Error} (h : Uncounted r e) : readTotal r = .error e ∧ e.kind = .storage := by
  cases h with
  | refused message => exact ⟨rfl, rfl⟩
  | changed n => exact ⟨rfl, rfl⟩
  | empty => exact ⟨rfl, rfl⟩
  | null hcell =>
    rw [readTotal_rows, hcell]
    exact ⟨rfl, rfl⟩
  | @mismatched row rest hnull hcell =>
    have hread : (row.cell "count").int64? = none := by
      cases hc : row.cell "count" with
      | int i => exact absurd hc (hcell i)
      | _ => rfl
    rw [readTotal_rows, Cell.required_of_ne_null hnull, hread]
    exact ⟨rfl, rfl⟩
  | negative hcell hnegative =>
    rw [readTotal_rows, hcell]
    exact ⟨if_pos hnegative, rfl⟩

/-- Every answer holds a number of events, or there is an error about it. -/
theorem exists_uncounted {r : Reply} (h : ∀ total, ¬ Totals r total) : ∃ e, Uncounted r e := by
  cases r with
  | failed message => exact ⟨_, .refused message⟩
  | affected n => exact ⟨_, .changed n⟩
  | rows rs =>
    cases rs with
    | nil => exact ⟨_, .empty⟩
    | cons row rest =>
      cases hcell : row.cell "count" with
      | null => exact ⟨_, .null hcell⟩
      | int i => exact ⟨_, .negative hcell (Int64.not_le.mp fun hpositive => h _ (.row hcell hpositive))⟩
      | _ => exact ⟨_, .mismatched (by simp [hcell]) (by simp [hcell])⟩

theorem readHits_eq {r : Reply} {rows : List FoundRow} (h : Lists r rows) :
    readHits r = (hitsOfRows rows).mapError .badIdList := by
  rw [readHits, lists_iff.mp h]

/-- An answer with a row that cannot be read is an error of the database, also if a list of ids cannot be read. -/
theorem readHits_eq_error {r : Reply} (h : ∀ rows, ¬ Lists r rows) :
    ∃ f, readHits r = .error (.sql f) ∧ ∀ message, r = .failed message → f = .refused message := by
  rw [readHits]
  cases hread : r.allRows.bind fun raw => raw.mapM FoundRow.ofRow with
  | ok rows => exact absurd (lists_iff.mpr hread) (h rows)
  | error f =>
    refine ⟨f, rfl, ?_⟩
    rintro message rfl
    exact (Except.error.inj hread).symm

/-- The conditions of filters can be sent exactly if the dates do not lie behind the calendar. -/
theorem all_isSendable_iff {filters : Filters} : filters.conditions.all isSendable = true ↔
    (∀ t, filters.startDate = some t → t.date.year ≤ 9999) ∧ ∀ t, filters.endDate = some t → t.date.year ≤ 9999 := by
  simp only [List.all_eq_true, Search.forall_conditions, isSendable, decide_eq_true_eq, implies_true, and_true]

theorem all_isSendable {settings : Search.Settings} {query : String} {filters : Filters}
    (hstart : ∀ t, filters.startDate = some t → t.date.year ≤ 9999)
    (hend : ∀ t, filters.endDate = some t → t.date.year ≤ 9999) :
    (Search.Plan.ofRequest settings query filters).conditions.all isSendable = true :=
  all_isSendable_iff.mpr ⟨hstart, hend⟩

/-- A search whose dates can be sent begins with the count. -/
theorem replay_search {settings : Search.Settings} {query : String} {filters : Filters}
    (h : (Search.Plan.ofRequest settings query filters).conditions.all isSendable = true) (limit offset : UInt32)
    (script : Dialogue.Script) :
    let plan := Search.Plan.ofRequest settings query filters
    (search settings query filters limit offset).run.replay script =
      (((match readTotal script.reply.1 with
        | .error e => .done (.error e)
        | .ok total => afterCount plan limit offset total : Dialogue (Except Error Response)).replay
          script.reply.2).cons (.sent (Search.countStatement plan))).cons (.noted (compiledNotice query plan)) := by
  intro plan
  rw [run_search, if_pos h]
  rfl

theorem replay_empty {limit offset : UInt32} {total : UInt64} (h : limit = 0 ∨ total ≤ offset.toUInt64)
    (plan : Search.Plan) (script : Dialogue.Script) :
    ((afterCount plan limit offset total).replay script).statements = [] ∧
      ((afterCount plan limit offset total).replay script).result = .ok ⟨[], total, limit, offset⟩ := by
  rw [afterCount, if_pos h]
  exact ⟨rfl, rfl⟩

theorem replay_page {limit offset : UInt32} {total : UInt64} (h : ¬ (limit = 0 ∨ total ≤ offset.toUInt64))
    (plan : Search.Plan) (script : Dialogue.Script) :
    ((afterCount plan limit offset total).replay script).statements = [Search.pageStatement plan limit offset] ∧
      ((afterCount plan limit offset total).replay script).result =
        (readHits script.reply.1).map fun hits => ⟨hits, total, limit, offset⟩ := by
  rw [afterCount, if_neg h, Dialogue.replay]
  simp only [Dialogue.statements_sent, Dialogue.result_cons]
  cases readHits script.reply.1 <;> exact ⟨rfl, rfl⟩

/-- A search gives a whole response or an error, whatever the answers are. It sends the count, and the page exactly
    if the count can be read and leaves something for it. A page with a row that cannot be read is an error of the
    database. Else there is one hit for each row, or an error about the first row whose ids cannot be read. -/
theorem search_all_or_nothing (settings : Search.Settings) (query : String) (filters : Filters)
    (hstart : ∀ t, filters.startDate = some t → t.date.year ≤ 9999)
    (hend : ∀ t, filters.endDate = some t → t.date.year ≤ 9999) (limit offset : UInt32) (script : Dialogue.Script) :
    let plan := Search.Plan.ofRequest settings query filters
    let count := Search.countStatement plan
    let page := Search.pageStatement plan limit offset
    let counted := script.reply.1
    let listed := script.reply.2.reply.1
    let outcome := (search settings query filters limit offset).run.replay script
    ((∀ total, ¬ Totals counted total) → outcome.statements = [count] ∧
      ∃ e, Uncounted counted e ∧ outcome.result = .error e ∧ e.kind = .storage) ∧
    ∀ total, Totals counted total →
      ((limit = 0 ∨ total ≤ offset.toUInt64) →
        outcome.statements = [count] ∧ outcome.result = .ok ⟨[], total, limit, offset⟩) ∧
      (0 < limit → offset.toUInt64 < total →
        outcome.statements = [count, page] ∧
        ((∀ rows, ¬ Lists listed rows) → ∃ f, outcome.result = .error (.sql f) ∧ (Error.sql f).kind = .storage ∧
          ∀ message, listed = .failed message → f = .refused message) ∧
        ∀ rows, Lists listed rows →
          (∀ before row after, rows = before ++ row :: after → (∀ x ∈ before, ∃ ids, IdList.Decodes x.idText ids) →
            (∀ ids, ¬ IdList.Decodes row.idText ids) →
            ∃ e, IdList.Blames row.idText e ∧ outcome.result = .error (.badIdList e) ∧ (Error.badIdList e).kind = .decode) ∧
          ((∀ row ∈ rows, ∃ ids, IdList.Decodes row.idText ids) →
            ∃ hits, List.Forall₂ (fun row hit => Shows row hit ∧ IdList.Decodes row.idText hit.detectionIds) rows hits ∧
              outcome.result = .ok ⟨hits, total, limit, offset⟩)) := by
  intro plan count page counted listed outcome
  have hreplay : outcome = _ := replay_search (all_isSendable hstart hend) limit offset script
  constructor
  · intro hnone
    obtain ⟨e, he⟩ := exists_uncounted hnone
    obtain ⟨hread, hkind⟩ := readTotal_eq_error he
    rw [hreplay, hread]
    exact ⟨rfl, e, he, rfl, hkind⟩
  intro total htotal
  rw [readTotal_eq_ok htotal] at hreplay
  constructor
  · intro hempty
    obtain ⟨hstatements, hresult⟩ := replay_empty hempty plan script.reply.2
    rw [hreplay, Dialogue.statements_noted, Dialogue.statements_sent, hstatements]
    exact ⟨rfl, hresult⟩
  intro hlimit hoffset
  have hpage : ¬ (limit = 0 ∨ total ≤ offset.toUInt64) := by
    rintro (rfl | hle)
    · exact absurd hlimit (by decide)
    · exact UInt64.not_lt.mpr hle hoffset
  obtain ⟨hstatements, hresult⟩ := replay_page hpage plan script.reply.2
  have hend : outcome.result = (readHits listed).map fun hits => ⟨hits, total, limit, offset⟩ := by
    rw [hreplay]
    exact hresult
  refine ⟨?_, fun hnone => ?_, fun rows hrows => ⟨?_, fun hids => ?_⟩⟩
  · rw [hreplay, Dialogue.statements_noted, Dialogue.statements_sent, hstatements]
  · obtain ⟨f, hread, hf⟩ := readHits_eq_error hnone
    rw [hend, hread]
    exact ⟨f, rfl, rfl, hf⟩
  · rintro before row after rfl hbefore hrow
    -- Each list of ids is decoded or has an error, so the row has one.
    obtain ⟨e, he⟩ := FoundRow.exists_error hrow
    have herror : hitsOfRows (before ++ row :: after) = .error e := by
      refine mapM_eq_error (fun x hx => ?_) (toHit_eq_error.mpr he)
      obtain ⟨ids, hids⟩ := hbefore x hx
      obtain ⟨hit, hhit⟩ := exists_shows_iff.mpr ⟨ids, IdList.decodes_iff.mp hids⟩
      exact ⟨hit, toHit_eq_ok.mpr hhit⟩
    rw [hend, readHits_eq hrows, herror]
    exact ⟨e, IdList.blames_iff.mpr he, rfl, rfl⟩
  · obtain ⟨hits, hhits⟩ := exists_forall₂_iff.mpr fun row hrow =>
      exists_shows_iff.mpr ((hids row hrow).imp fun _ => IdList.decodes_iff.mp)
    rw [hend, readHits_eq hrows, hitsOfRows_eq_ok.mpr hhits]
    exact ⟨hits, hhits.imp fun _ _ h => ⟨h, IdList.decodes_iff.mpr h.detectionIds⟩, rfl⟩

/-- A row of a page with this text in the place of its ids. -/
def rowWithIds (ids : String) : Row :=
  [("event_id", .int 7), ("camera_id", .text "front"), ("camera_name", .text "Front door"), ("started_at", .int 0),
   ("reviewed", .bool false), ("detection_ids", .text ids), ("relevance_score", .float .zero)]

/-- On one page the second row holds the first list that cannot be read. On another one a row with no such list lacks the
    name of its camera, and stands between two that hold such lists. -/
theorem search_bad_list :
    let filters := Filters.ofChoices [.startingAt ⟨0⟩, .endingBefore ⟨1000⟩]
    let page := Reply.rows [rowWithIds "[1]", rowWithIds "2, two", rowWithIds "three"]
    let broken := Reply.rows
      [rowWithIds "two", (rowWithIds "[1]").filter fun column => column.1 != "camera_name", rowWithIds "three"]
    let answered (page : Reply) := ((search ⟨"english", .one⟩ "person" filters 10 2).run.replay
      ⟨[.rows [[("count", .int 5)]], page], []⟩).result
    answered page = .error (.badIdList ⟨"2, two".toList, "two".toList⟩) ∧ ∃ f, answered broken = .error (.sql f) := by
  intro filters page broken answered
  have hstart : ∀ t, filters.startDate = some t → t.date.year ≤ 9999 := by
    rintro t ⟨⟩
    decide
  have hend : ∀ t, filters.endDate = some t → t.date.year ≤ 9999 := by
    rintro t ⟨⟩
    decide
  have htotal : Totals (.rows [[("count", .int 5)]]) 5 := @Totals.row [("count", .int 5)] [] 5 rfl (by decide)
  have hpage := fun listed => ((search_all_or_nothing ⟨"english", .one⟩ "person" filters hstart hend 10 2
    ⟨[.rows [[("count", .int 5)]], listed], []⟩).2 5 htotal).2 (by decide) (by decide)
  constructor
  · obtain ⟨-, -, hlisted⟩ := hpage page
    let read (ids : String) : FoundRow :=
      ⟨7, "front", "Front door", ⟨0⟩, none, none, none, none, none, false, none, some ids, .zero⟩
    have hread : Lists page [read "[1]", read "2, two", read "three"] := lists_iff.mpr rfl
    have hblamed : IdList.ofStored (read "2, two").idText = .error ⟨"2, two".toList, "two".toList⟩ := rfl
    obtain ⟨hbad, -⟩ := hlisted _ hread
    obtain ⟨e, he, hresult, -⟩ := hbad [read "[1]"] (read "2, two") [read "three"] rfl
      (List.forall_mem_singleton.mpr ⟨[1], IdList.decodes_iff.mpr rfl⟩)
      (fun ids hids => by cases hblamed.symm.trans (IdList.decodes_iff.mp hids))
    obtain rfl := Except.error.inj (hblamed.symm.trans (IdList.blames_iff.mp he))
    exact hresult
  · obtain ⟨-, hunread, -⟩ := hpage broken
    have hbroken : ∀ rows, ¬ Lists broken rows := by
      intro rows h
      obtain ⟨_, _, -, hrest, -⟩ := List.forall₂_cons_left_iff.mp (lists_rows.mp h)
      obtain ⟨_, _, hsecond, -, -⟩ := List.forall₂_cons_left_iff.mp hrest
      cases hsecond.camera.2
    obtain ⟨f, hf, -⟩ := hunread hbroken
    exact ⟨f, hf⟩

end Lookout.Service
