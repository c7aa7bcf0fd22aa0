import Lookout.Proofs.Sql.Lexemes
import Lookout.Search.Statement

/-! What the two statements of a search share. Behind its columns the page has the text of the count, with the
    placeholders moved behind that of the score, and each of them stands for the same value as in the count. -/

namespace Lookout.Search

open Sql (Parted Piece)

/-! ### Pieces that stay apart -/

theorem parted_likePieces {column : String} (h : column ∈ fallbackColumns) (pattern : String) :
    Parted (likePieces column pattern) := by
  simp only [fallbackColumns, List.mem_cons, List.not_mem_nil, or_false] at h
  rcases h with rfl | rfl | rfl <;> exact .of_isParted rfl

theorem parted_textSource (settings : Settings) (text : Option TextMatch) : Parted (textSource settings text) := by
  cases text with
  | none => exact .nil
  | some t =>
    obtain ⟨mode, indexQuery, pattern⟩ := t
    cases mode
    · simp only [textSource, indexFunction]
      exact .of_isParted rfl
    · simp only [textSource, indexFunction]
      exact .of_isParted rfl

theorem parted_textCondition (text : Option TextMatch) : Parted (textCondition text) := by
  cases text with
  | none => exact .of_isParted rfl
  | some t =>
    have hlikes : Parted (Sql.separated " OR " (fallbackColumns.map fun c => likePieces c t.fallbackPattern)) := by
      refine .separated rfl fun g hg => ?_
      obtain ⟨c, hc, rfl⟩ := List.mem_map.mp hg
      exact parted_likePieces hc _
    exact (hlikes.append_raw rfl (.of_isParted rfl)).cons_raw rfl rfl

theorem parted_conditionPieces (c : Condition) : Parted (conditionPieces c) := by
  cases c with
  | startedAtOrAfter t => exact .of_isParted rfl
  | startedBefore t => exact .of_isParted rfl
  | cameraIn ids => exact .of_isParted rfl
  | severityIn levels => exact .of_isParted rfl
  | reviewed b => exact .of_isParted rfl
  | objectTypeMatchesAny patterns =>
    have hlikes : Parted (Sql.separated " OR " (patterns.map (likePieces "e.object_types"))) := by
      refine .separated rfl fun g hg => ?_
      obtain ⟨pattern, -, rfl⟩ := List.mem_map.mp hg
      exact parted_likePieces (by simp [fallbackColumns]) pattern
    exact (hlikes.append_raw rfl (.of_isParted rfl)).cons_raw rfl rfl

theorem parted_wherePieces (p : Plan) : Parted (wherePieces p) := by
  have hand : Sql.isSeparator " AND " = true := rfl
  have htext : Parted (.raw " WHERE " :: textCondition p.text) := (parted_textCondition p.text).cons_raw rfl rfl
  exact htext.append_flatMap hand fun c _ => parted_conditionPieces c

theorem parted_source (settings : Settings) (text : Option TextMatch) :
    Parted (.raw source :: textSource settings text) := by
  have hsource : Parted [.raw source] := by
    refine .of_isParted ?_
    rw [Sql.isParted, Piece.isPlain, Sql.toList_literal (s := source) rfl]
    rfl
  cases text with
  | none => exact hsource
  | some t => exact hsource.append_raw rfl (parted_textSource settings (some t))

theorem parted_tailPieces (p : Plan) : Parted (tailPieces p) :=
  (parted_source p.settings p.text).append_raw rfl (parted_wherePieces p)

/-! ### The values of the two statements -/

/-- The text of the score, which is the first value of a page if there is one. -/
def scoreText : Option TextMatch → String
  | none => "0.0::float8 AS relevance_score"
  | some _ => "LEAST(COALESCE(ts_rank(e.search_vector, q.tsq), 0)::float8 * $1, 1.0::float8) AS relevance_score"

/-- The values of the score of a page. -/
def scoreValues (settings : Settings) : Option TextMatch → List Sql.Param
  | none => []
  | some _ => [.float8 settings.rankScale]

theorem renderFrom_scorePieces (settings : Settings) (text : Option TextMatch) :
    Sql.renderFrom 1 (scorePieces settings text) = (scoreText text).toList := by
  cases text with
  | none => exact List.append_nil _
  | some t =>
    simp only [scorePieces, Sql.renderFrom, List.append_nil]
    rw [Sql.toList_literal (s := "LEAST(COALESCE(ts_rank(e.search_vector, q.tsq), 0)::float8 * ") rfl,
      Sql.toList_literal (s := scoreText (some t)) rfl,
      Sql.toList_literal (s := ", 1.0::float8) AS relevance_score") rfl]
    rfl

theorem valuesOf_scorePieces (settings : Settings) (text : Option TextMatch) :
    Sql.valuesOf (scorePieces settings text) = scoreValues settings text := by
  cases text <;> rfl

/-- The text side of a plan is there exactly if the query has a predicate. -/
theorem Plan.text_eq_none {settings : Settings} {query : String} {filters : Filters} :
    (Plan.ofRequest settings query filters).text = none ↔ (Query.Predicate.ofQuery query.toList).isEmpty = true := by
  rw [Plan.ofRequest, TextMatch.ofPredicate?]
  split
  · next h => simp [h]
  · next h => simp [h]

theorem length_scoreValues (settings : Settings) (query : String) (filters : Filters) :
    (scoreValues settings (Plan.ofRequest settings query filters).text).length =
      if (Query.Predicate.ofQuery query.toList).isEmpty then 0 else 1 := by
  split
  · next h => rw [Plan.text_eq_none.mpr h]; rfl
  · next h =>
    obtain ⟨t, ht⟩ := Option.ne_none_iff_exists'.mp (mt Plan.text_eq_none.mp h)
    rw [ht]
    rfl

theorem params_countStatement (p : Plan) : (countStatement p).params = Sql.valuesOf (tailPieces p) :=
  Sql.valuesOf_raw "SELECT COUNT(*)" (tailPieces p)

/-- The values of a page are those of the score, those of the count, and the bounds of the page. -/
theorem params_pageStatement (p : Plan) (limit offset : UInt32) :
    (pageStatement p limit offset).params =
      scoreValues p.settings p.text ++ (countStatement p).params ++
        [.int8 (Int64.ofNat limit.toNat), .int8 (Int64.ofNat offset.toNat)] := by
  simp only [pageStatement, countStatement, Sql.Statement.ofPieces, amount, Sql.valuesOf_append, Sql.valuesOf_raw,
    Sql.valuesOf_value, Sql.valuesOf_nil, valuesOf_scorePieces, List.cons_append]

/-- The text of a page is its columns, the score, the tail of the count with other numbers, and its bounds. -/
theorem sql_pageStatement (p : Plan) (limit offset : UInt32) {d m : Nat}
    (hd : (scoreValues p.settings p.text).length = d) (hm : (countStatement p).params.length + d + 1 = m) :
    (pageStatement p limit offset).sql.toList =
      columnsText.toList ++ (scoreText p.text).toList ++ Sql.renumber d (Sql.renderFrom 1 (tailPieces p)) ++
        (orderText p.text).toList ++ " LIMIT ".toList ++ Sql.placeholder m ++ " OFFSET ".toList ++
        Sql.placeholder (m + 1) := by
  rw [Sql.renumber_renderFrom (parted_tailPieces p)]
  rw [params_countStatement] at hm
  have hbounds : 1 + (Sql.valuesOf (scorePieces p.settings p.text ++ tailPieces p)).length = m := by
    rw [Sql.valuesOf_append, valuesOf_scorePieces, List.length_append, hd]
    omega
  simp only [pageStatement, Sql.Statement.ofPieces, String.toList_ofList, List.cons_append, Sql.renderFrom,
    Sql.renderFrom_append, renderFrom_scorePieces, valuesOf_scorePieces, hd, amount, hbounds, Sql.placeholder]
  simp

/-- The two statements of a search select in the same way. The page has the tail of the count, in which each
    placeholder is moved behind that of the score, and stands for the value that it stands for in the count. -/
theorem page_shares_tail (settings : Settings) (query : String) (filters : Filters) (limit offset : UInt32) :
    let plan := Plan.ofRequest settings query filters
    let d := if (Query.Predicate.ofQuery query.toList).isEmpty then 0 else 1
    let m := (countStatement plan).params.length + d + 1
    ∃ tail : List Char,
      (countStatement plan).sql.toList = "SELECT COUNT(*)".toList ++ tail ∧
      (pageStatement plan limit offset).sql.toList =
        columnsText.toList ++ (scoreText plan.text).toList ++ Sql.renumber d tail ++ (orderText plan.text).toList ++
          " LIMIT ".toList ++ Sql.placeholder m ++ " OFFSET ".toList ++ Sql.placeholder (m + 1) ∧
      (pageStatement plan limit offset).params =
        (if (Query.Predicate.ofQuery query.toList).isEmpty then [] else [.float8 settings.rankScale]) ++
          (countStatement plan).params ++
          [.int8 (Int64.ofNat limit.toNat), .int8 (Int64.ofNat offset.toNat)] ∧
      ∀ k ∈ Sql.placeholders tail, ∃ v, Sql.valueAt? (countStatement plan).params k = some v ∧
        Sql.valueAt? (pageStatement plan limit offset).params (k + d) = some v := by
  intro plan d m
  have hlength : (scoreValues settings plan.text).length = d := length_scoreValues settings query filters
  have hscore : scoreValues settings plan.text =
      if (Query.Predicate.ofQuery query.toList).isEmpty then [] else [.float8 settings.rankScale] := by
    split
    · next h => exact List.eq_nil_of_length_eq_zero (hlength.trans (if_pos h))
    · next h =>
      obtain ⟨t, ht⟩ := Option.ne_none_iff_exists'.mp (mt Plan.text_eq_none.mp h)
      rw [show plan.text = some t from ht]
      rfl
  have hparams : (pageStatement plan limit offset).params =
      scoreValues settings plan.text ++ (countStatement plan).params ++
        [.int8 (Int64.ofNat limit.toNat), .int8 (Int64.ofNat offset.toNat)] := params_pageStatement plan limit offset
  -- The tail is rendered from the same pieces twice: from number 1 on in the count, and behind the score in the page.
  refine ⟨Sql.renderFrom 1 (tailPieces plan), ?_, sql_pageStatement plan limit offset hlength rfl, ?_, fun k hk => ?_⟩
  · exact String.toList_ofList
  · rw [hparams, hscore]
  · rw [Sql.placeholders_renderFrom (parted_tailPieces plan), List.mem_range'_1] at hk
    obtain ⟨i, rfl⟩ : ∃ i, k = i + 1 := ⟨k - 1, by omega⟩
    -- A placeholder of the tail has a value, for they are numbered from 1 to the number of its values.
    have hi : i < (countStatement plan).params.length := by
      rw [params_countStatement]
      omega
    have hv : Sql.valueAt? (countStatement plan).params (i + 1) = some (countStatement plan).params[i] :=
      List.getElem?_eq_getElem hi
    refine ⟨(countStatement plan).params[i], hv, ?_⟩
    rw [hparams, ← hlength]
    exact Sql.valueAt?_between hv _ _

end Lookout.Search
