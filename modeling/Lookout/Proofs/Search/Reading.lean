import Lookout.Proofs.Search.Selection
import Lookout.Proofs.Sql.Select

/-! The two statements of a search, read. Both select by the condition of the search from the same source; one
    returns the number of events, and the other one a page of them. -/

namespace Lookout.Search

open Sql (Formula Parted Writes Param Piece Connective Select Call Score Output partWords)

/-! ### What is meant -/

/-- The call that makes the index query of a text, with its values. -/
def call (settings : Settings) (t : TextMatch) : Call Param :=
  ⟨indexFunction t.mode, .text settings.textSearchConfig, .text t.indexQuery⟩

/-- How the events of a page are scored. -/
def score (settings : Settings) : Option TextMatch → Score Param
  | none => .zero
  | some _ => .scaled (.float8 settings.rankScale)

/-- The columns of a page, each with the name that it has in a row. -/
def columnNames : List (String × String) :=
  [("e.event_id", "event_id"), ("e.camera_id", "camera_id"), ("c.name", "camera_name"),
   ("e.started_at", "started_at"), ("e.ended_at", "ended_at"), ("e.risk_score", "risk_score"),
   ("e.risk_level", "risk_level"), ("e.summary", "summary"), ("e.reasoning", "reasoning"),
   ("e.reviewed", "reviewed"), ("e.object_types", "object_types"), ("e.detection_ids", "detection_ids")]

/-- The keys of the order of a page. The score is one if there is a text. -/
def orderKeys : Option TextMatch → List String
  | none => ["e.started_at", "e.event_id"]
  | some _ => ["relevance_score", "e.started_at", "e.event_id"]

/-- What the count statement of a plan says. -/
def countSelect (p : Plan) : Select Param := ⟨.count, p.text.map (call p.settings), p.formula⟩

/-- What the page statement of a plan says. -/
def pageSelect (p : Plan) (limit offset : UInt32) : Select Param :=
  ⟨.page columnNames (score p.settings p.text) (orderKeys p.text) (.int8 (Int64.ofNat limit.toNat))
    (.int8 (Int64.ofNat offset.toNat)), p.text.map (call p.settings), p.formula⟩

/-! ### The tail -/

/-- The tokens of the source behind `FROM`, when its first value has the number `n`. -/
def sourceTokensFrom (n : Nat) : Option TextMatch → List String
  | none => Sql.sourceTokens
  | some t =>
    Sql.sourceTokens ++ ["CROSS", "JOIN", indexFunction t.mode, "(", Sql.valueToken n, "::", "regconfig", ",",
      Sql.valueToken (n + 1), ")", "AS", "q", "(", "tsq", ")"]

/-- The index query of a source, when its first value has the number `n`. -/
def callFrom (n : Nat) (text : Option TextMatch) : Option (Call Nat) :=
  text.map fun t => ⟨indexFunction t.mode, n, n + 1⟩

theorem tokensFrom_source (settings : Settings) (text : Option TextMatch) (n : Nat) :
    Sql.tokensFrom n (.raw source :: textSource settings text) = "FROM" :: sourceTokensFrom n text := by
  have hsource : Sql.tokens source.toList = "FROM" :: Sql.sourceTokens := Sql.tokens_literal rfl (by decide +kernel)
  cases text with
  | none => simp only [textSource, Sql.tokensFrom_raw, Sql.tokensFrom_nil, hsource]; rfl
  | some t =>
    have hjoin : Sql.tokens " CROSS JOIN ".toList = ["CROSS", "JOIN"] := by decide
    have hfunction : Sql.tokens (indexFunction t.mode).toList = [indexFunction t.mode] := by
      cases t.mode <;> decide
    have hopening : Sql.tokens "(".toList = ["("] := by decide
    have hcast : Sql.tokens "::regconfig, ".toList = ["::", "regconfig", ","] := by decide
    have hname : Sql.tokens ") AS q(tsq)".toList = [")", "AS", "q", "(", "tsq", ")"] := by decide
    simp only [textSource, Sql.tokensFrom_raw, Sql.tokensFrom_value, Sql.tokensFrom_nil, hsource, hjoin, hfunction,
      hopening, hcast, hname]
    rfl

theorem source?_sourceTokensFrom (text : Option TextMatch) (n : Nat) :
    Sql.source? (sourceTokensFrom n text) = some (callFrom n text) := by
  cases text with
  | none => exact Sql.source?_append []
  | some t =>
    rw [sourceTokensFrom, Sql.source?_append, Call.read?, Sql.placeholder?_valueToken, Sql.placeholder?_valueToken]
    rfl

theorem notMem_sourceTokensFrom (text : Option TextMatch) (n : Nat) :
    "FROM" ∉ sourceTokensFrom n text ∧ "WHERE" ∉ sourceTokensFrom n text := by
  have hvalue : ∀ k, "FROM" ≠ Sql.valueToken k ∧ "WHERE" ≠ Sql.valueToken k := fun k => by
    have := Sql.notMem_partWords (t := Sql.valueToken k) (.inr ⟨k, Sql.placeholder?_valueToken k⟩)
    simp only [partWords, List.mem_cons, not_or] at this
    exact ⟨Ne.symm this.1, Ne.symm this.2.1⟩
  cases text with
  | none => exact (by decide : "FROM" ∉ Sql.sourceTokens ∧ "WHERE" ∉ Sql.sourceTokens)
  | some t =>
    have hfunction : "FROM" ≠ indexFunction t.mode ∧ "WHERE" ≠ indexFunction t.mode := by
      cases t.mode <;> decide
    simp [sourceTokensFrom, Sql.sourceTokens, hvalue, hfunction]

theorem bindCall?_callFrom (settings : Settings) (text : Option TextMatch) (pre post : List Param) :
    Sql.bindCall? (pre ++ Sql.valuesOf (textSource settings text) ++ post) (callFrom (pre.length + 1) text) =
      some (text.map (call settings)) := by
  cases text with
  | none => rfl
  | some t =>
    have hvalues : Sql.valuesOf (textSource settings (some t)) =
        [.text settings.textSearchConfig, .text t.indexQuery] := rfl
    have hconfig : Sql.valueAt? [.text settings.textSearchConfig, .text t.indexQuery] 1 =
        some (.text settings.textSearchConfig) := rfl
    have htext : Sql.valueAt? [.text settings.textSearchConfig, .text t.indexQuery] 2 = some (.text t.indexQuery) := rfl
    have hfirst := Sql.valueAt?_between hconfig pre post
    have hsecond := Sql.valueAt?_between htext pre post
    rw [Nat.add_comm] at hfirst hsecond
    rw [hvalues]
    simp only [callFrom, Option.map_some, Sql.bindCall?, Call.bind?, hfirst, hsecond, Option.bind_some]
    rfl

/-- The tail reads in the same way wherever it stands, and with the values around it its placeholders stand for its
    own. -/
theorem reads_tail {p : Plan} (h : Writes Formula.operators.binary (clausePieces p) p.formula)
    (pre post : List Param) :
    ∃ condition f,
      Sql.tokensFrom (pre.length + 1) (tailPieces p) =
        "FROM" :: (sourceTokensFrom (pre.length + 1) p.text ++ "WHERE" :: condition) ∧
      Formula.operators.Sentence condition f ∧
      f.bind? (pre ++ Sql.valuesOf (tailPieces p) ++ post) = some p.formula ∧
      Sql.bindCall? (pre ++ Sql.valuesOf (tailPieces p) ++ post) (callFrom (pre.length + 1) p.text) =
        some (p.text.map (call p.settings)) := by
  have hwhere : Sql.tokens " WHERE ".toList = ["WHERE"] := by decide
  have hvalues : Sql.valuesOf (tailPieces p) =
      Sql.valuesOf (textSource p.settings p.text) ++ Sql.valuesOf (clausePieces p) := by
    rw [tailPieces, wherePieces_eq, Sql.valuesOf_append, Sql.valuesOf_raw, Sql.valuesOf_raw]
  obtain ⟨f, hf, hbind⟩ := h.reads (pre.length + 1 + (Sql.valuesOf (textSource p.settings p.text)).length)
  refine ⟨_, f, ?_, hf, ?_, ?_⟩
  · rw [tailPieces, wherePieces_eq, Sql.tokensFrom_append, tokensFrom_source, Sql.tokensFrom_raw, hwhere,
      Sql.valuesOf_raw]
    rfl
  · rw [hvalues, ← List.append_assoc]
    exact hbind _ post (by rw [List.length_append]; omega)
  · rw [hvalues, ← List.append_assoc, List.append_assoc _ _ post]
    exact bindCall?_callFrom p.settings p.text pre _

/-! ### The count -/

theorem parted_countPieces (p : Plan) : Parted (.raw "SELECT COUNT(*)" :: tailPieces p) := by
  have hstart : Parted [.raw "SELECT COUNT(*)"] := .of_isParted rfl
  exact hstart.append_raw rfl (parted_tailPieces p)

theorem reads_countStatement {p : Plan} (h : Writes Formula.operators.binary (clausePieces p) p.formula) :
    ∃ s, Select.read? (countStatement p).sql.toList = some s ∧
      s.bind? (countStatement p).params = some (countSelect p) := by
  obtain ⟨condition, f, htokens, hf, hbind, hcall⟩ := reads_tail h [] []
  simp only [List.length_nil, Nat.zero_add, List.nil_append, List.append_nil] at htokens hbind hcall
  have hreturned : Sql.tokens "SELECT COUNT(*)".toList = ["SELECT", "COUNT", "(", "*", ")"] := by decide
  refine ⟨⟨.count, callFrom 1 p.text, f⟩, ?_, ?_⟩
  · have hbehind : Text.cut (· == "ORDER") (condition ++ []) = condition :: [] := by
      rw [List.append_nil]
      refine Text.cut_of_forall fun t ht => beq_eq_false_iff_ne.mpr fun he => ?_
      exact Sql.notMem_of_sentence hf "ORDER" (by decide) (he ▸ ht)
    have hread := Select.ofTokens?_eq (by decide : "FROM" ∉ ["SELECT", "COUNT", "(", "*", ")"])
      (notMem_sourceTokensFrom p.text 1) hf (by decide) hbehind rfl (source?_sourceTokensFrom p.text 1)
    rw [List.append_nil] at hread
    rw [countStatement, Sql.Statement.ofPieces, String.toList_ofList, Select.read?,
      Sql.tokens_renderFrom (parted_countPieces p), Sql.tokensFrom_raw, hreturned, htokens]
    exact hread
  · rw [params_countStatement]
    simp only [Select.bind?, Output.bind?, hcall, hbind, Option.bind_some]
    rfl

/-! ### The page -/

/-- The tokens of the columns of a page. -/
def columnTokens : List String :=
  ["e.event_id", ",", "e.camera_id", ",", "c.name", "AS", "camera_name", ",", "e.started_at", ",", "e.ended_at", ",",
   "e.risk_score", ",", "e.risk_level", ",", "e.summary", ",", "e.reasoning", ",", "e.reviewed", ",",
   "e.object_types", ",", "e.detection_ids", ","]

/-- The score of a page before its value, as tokens. -/
def rankTokens : List String :=
  ["LEAST", "(", "COALESCE", "(", "ts_rank", "(", "e.search_vector", ",", "q.tsq", ")", ",", "0", ")", "::", "float8",
   "*"]

/-- The score of a page behind its value, as tokens. -/
def boundTokens : List String := [",", "1.0", "::", "float8", ")", "AS", "relevance_score"]

/-- The tokens of the score of a page. -/
def scoreTokens : Option TextMatch → List String
  | none => ["0.0", "::", "float8", "AS", "relevance_score"]
  | some _ => rankTokens ++ Sql.valueToken 1 :: boundTokens

/-- The tokens of the order of a page. -/
def orderTokens : Option TextMatch → List String
  | none => ["e.started_at", "DESC", ",", "e.event_id", "DESC"]
  | some _ => ["relevance_score", "DESC", ",", "e.started_at", "DESC", ",", "e.event_id", "DESC"]

/-- The score of a page, whose only value is the first one of the statement. -/
def scoreFrom : Option TextMatch → Score Nat
  | none => .zero
  | some _ => .scaled 1

theorem toList_columnsText : columnsText.toList =
    "SELECT\n\t".toList ++ (",\n\t".toList.intercalate (columns.map String.toList) ++ ",\n\t".toList) := by
  simp only [columnsText, Sql.columnList, String.toList_append, String.toList_intercalate, List.append_assoc]

theorem parted_returned (settings : Settings) (text : Option TextMatch) :
    Parted (.raw columnsText :: scorePieces settings text) := by
  have hcolumns : (Piece.raw columnsText).isPlain = true ∧ columnsText.toList.getLast?.any Sql.isLoose = true := by
    rw [Piece.isPlain, toList_columnsText]
    simp only [columns, List.map_cons, List.map_nil, String.reduceToList]
    exact ⟨rfl, rfl⟩
  have hscore : Parted (scorePieces settings text) := by
    cases text <;> exact .of_isParted rfl
  exact hscore.cons_raw hcolumns.1 hcolumns.2

theorem tokens_columnsText : Sql.tokens columnsText.toList = "SELECT" :: columnTokens := by
  refine Sql.tokens_eq ?_
  rw [toList_columnsText]
  simp only [columns, List.map_cons, List.map_nil, String.reduceToList]
  decide +kernel

theorem tokensFrom_returned (settings : Settings) (text : Option TextMatch) :
    Sql.tokensFrom 1 (.raw columnsText :: scorePieces settings text) =
      "SELECT" :: (columnTokens ++ scoreTokens text) := by
  rw [Sql.tokensFrom_raw, tokens_columnsText]
  cases text with
  | none =>
    have hscore : Sql.tokens "0.0::float8 AS relevance_score".toList = scoreTokens none :=
      Sql.tokens_literal rfl (by decide +kernel)
    simp only [scorePieces, Sql.tokensFrom_raw, Sql.tokensFrom_nil, hscore, List.append_nil, List.cons_append]
  | some t =>
    have hrank : Sql.tokens "LEAST(COALESCE(ts_rank(e.search_vector, q.tsq), 0)::float8 * ".toList = rankTokens :=
      Sql.tokens_literal rfl (by decide +kernel)
    have hbound : Sql.tokens ", 1.0::float8) AS relevance_score".toList = boundTokens :=
      Sql.tokens_literal rfl (by decide +kernel)
    simp only [scorePieces, Sql.tokensFrom_raw, Sql.tokensFrom_value, Sql.tokensFrom_nil, hrank, hbound]
    rfl

theorem columns?_returned (text : Option TextMatch) :
    Sql.columns? (columnTokens ++ scoreTokens text) = some (columnNames, scoreFrom text) := by
  have hscore : Sql.columns? (scoreTokens text) = some ([], scoreFrom text) := by
    cases text with
    | none => simp [scoreTokens, Sql.columns?, Score.read?, scoreFrom]
    | some t =>
      have hvalue := Sql.placeholder?_valueToken 1
      simp [scoreTokens, rankTokens, boundTokens, Sql.columns?, Score.read?, scoreFrom, hvalue]
  have hqualified : ∀ c ∈ columnNames, Sql.isQualified c.1 = true := by decide
  simp only [columnNames, List.forall_mem_cons] at hqualified
  simp [columnTokens, Sql.columns?, hqualified, hscore, columnNames]
  decide

theorem notMem_returned (text : Option TextMatch) : "FROM" ∉ "SELECT" :: (columnTokens ++ scoreTokens text) := by
  cases text with
  | none => exact (by decide : "FROM" ∉ "SELECT" :: (columnTokens ++ scoreTokens none))
  | some t =>
    have hvalue : "FROM" ≠ Sql.valueToken 1 := by decide
    simp [columnTokens, scoreTokens, rankTokens, boundTokens, hvalue]

theorem tokens_orderText (text : Option TextMatch) :
    Sql.tokens (orderText text).toList = "ORDER" :: "BY" :: orderTokens text := by
  cases text with
  | none => exact Sql.tokens_literal rfl (by decide +kernel)
  | some t => exact Sql.tokens_literal rfl (by simp only [orderTokens]; decide +kernel)

theorem order_orderTokens (text : Option TextMatch) :
    (Text.cut (· == ",") (orderTokens text)).mapM Sql.key? = some (orderKeys text) := by
  cases text <;> rfl

theorem parted_pagePieces (p : Plan) (limit offset : UInt32) :
    Parted (.raw columnsText :: scorePieces p.settings p.text ++ tailPieces p ++
      [.raw (orderText p.text), .raw " LIMIT ", amount limit, .raw " OFFSET ", amount offset]) := by
  have hhead := (parted_returned p.settings p.text).append_raw rfl (parted_tailPieces p)
  have horder : (Piece.raw (orderText p.text)).isPlain = true ∧
      (orderText p.text).toList.head?.any Sql.isLoose = true := by
    cases p.text with
    | none => exact ⟨rfl, rfl⟩
    | some t =>
      rw [Piece.isPlain, Sql.toList_literal (s := orderText (some t)) rfl]
      exact ⟨rfl, rfl⟩
  have hbounds : Parted [.raw " LIMIT ", amount limit, .raw " OFFSET ", amount offset] := .of_isParted rfl
  have hend : Parted ([.raw (orderText p.text)] ++ [.raw " LIMIT ", amount limit, .raw " OFFSET ", amount offset]) :=
    Parted.append_raw rfl (.of_isParted horder.1) hbounds
  exact hhead.append_raw horder.2 hend

/-- What a page returns is read from what stands before its source and behind its condition. -/
theorem output_page (text : Option TextMatch) (m : Nat) :
    Output.read? ("SELECT" :: (columnTokens ++ scoreTokens text))
        ["BY" :: (orderTokens text ++ ["LIMIT", Sql.valueToken m, "OFFSET", Sql.valueToken (m + 1)])] =
      some (.page columnNames (scoreFrom text) (orderKeys text) m (m + 1)) := by
  have hvalue : ∀ k, "LIMIT" ≠ Sql.valueToken k := fun k he =>
    Sql.notMem_partWords (.inr ⟨k, Sql.placeholder?_valueToken k⟩) (he ▸ by decide)
  have horder : "LIMIT" ∉ orderTokens text := by
    cases text <;> simp [orderTokens]
  have hcut := Sql.cut_at_word horder (by simp [hvalue] :
    "LIMIT" ∉ [Sql.valueToken m, "OFFSET", Sql.valueToken (m + 1)])
  have hpage : Output.ofPage? (columnTokens ++ scoreTokens text) (orderTokens text)
      [Sql.valueToken m, "OFFSET", Sql.valueToken (m + 1)] =
        some (.page columnNames (scoreFrom text) (orderKeys text) m (m + 1)) := by
    simp only [Output.ofPage?, columns?_returned, order_orderTokens, Sql.placeholder?_valueToken, Option.bind_eq_bind,
      Option.bind_some]
    rfl
  rw [Output.read?, hcut]
  exact hpage

theorem bind?_scoreFrom (settings : Settings) (text : Option TextMatch) (after : List Param) :
    (scoreFrom text).bind? (scoreValues settings text ++ after) = some (score settings text) := by
  cases text <;> rfl

/-- The tokens behind the condition of a page, when the limit has the number `m`. -/
def endTokens (text : Option TextMatch) (m : Nat) : List String :=
  "ORDER" :: "BY" :: (orderTokens text ++ ["LIMIT", Sql.valueToken m, "OFFSET", Sql.valueToken (m + 1)])

theorem tokensFrom_end (text : Option TextMatch) (limit offset : UInt32) (m : Nat) :
    Sql.tokensFrom m [.raw (orderText text), .raw " LIMIT ", amount limit, .raw " OFFSET ", amount offset] =
      endTokens text m := by
  have hlimit : Sql.tokens " LIMIT ".toList = ["LIMIT"] := by decide
  have hoffset : Sql.tokens " OFFSET ".toList = ["OFFSET"] := by decide
  simp only [amount, Sql.tokensFrom_raw, Sql.tokensFrom_value, Sql.tokensFrom_nil, tokens_orderText, hlimit, hoffset]
  rfl

/-- Of the words between the parts, only `ORDER` and `LIMIT` stand behind the condition. -/
theorem notMem_endTokens (text : Option TextMatch) (m : Nat) :
    ("FROM" ∉ endTokens text m ∧ "WHERE" ∉ endTokens text m) ∧ "ORDER" ∉ (endTokens text m).tail := by
  have hvalue : ∀ k, ∀ word ∈ partWords, word ≠ Sql.valueToken k := fun k word hword he =>
    Sql.notMem_partWords (.inr ⟨k, Sql.placeholder?_valueToken k⟩) (he ▸ hword)
  have hfrom := fun k => hvalue k "FROM" (by decide)
  have hwhere := fun k => hvalue k "WHERE" (by decide)
  have horder := fun k => hvalue k "ORDER" (by decide)
  cases text <;> simp [endTokens, orderTokens, hfrom, hwhere, horder]

theorem tokens_pageStatement (p : Plan) (limit offset : UInt32) {d m : Nat}
    (hd : (scoreValues p.settings p.text).length = d) (hm : d + (Sql.valuesOf (tailPieces p)).length + 1 = m) :
    Sql.tokens (pageStatement p limit offset).sql.toList =
      "SELECT" :: (columnTokens ++ scoreTokens p.text) ++ Sql.tokensFrom (d + 1) (tailPieces p) ++
        endTokens p.text m := by
  have hfirst : 1 + (Sql.valuesOf (.raw columnsText :: scorePieces p.settings p.text)).length = d + 1 := by
    rw [Sql.valuesOf_raw, valuesOf_scorePieces, hd, Nat.add_comm]
  have hlast : 1 + (Sql.valuesOf (.raw columnsText :: scorePieces p.settings p.text ++ tailPieces p)).length = m := by
    rw [Sql.valuesOf_append, List.length_append, ← Nat.add_assoc, hfirst]
    omega
  rw [pageStatement, Sql.Statement.ofPieces, String.toList_ofList, Sql.tokens_renderFrom (parted_pagePieces p _ _),
    Sql.tokensFrom_append, Sql.tokensFrom_append, hfirst, hlast, tokensFrom_returned, tokensFrom_end]

theorem reads_pageStatement {p : Plan} (h : Writes Formula.operators.binary (clausePieces p) p.formula)
    (limit offset : UInt32) :
    ∃ s, Select.read? (pageStatement p limit offset).sql.toList = some s ∧
      s.bind? (pageStatement p limit offset).params = some (pageSelect p limit offset) := by
  let before := scoreValues p.settings p.text
  let after : List Param := [.int8 (Int64.ofNat limit.toNat), .int8 (Int64.ofNat offset.toNat)]
  let m := before.length + (Sql.valuesOf (tailPieces p)).length + 1
  obtain ⟨condition, f, htokens, hf, hbind, hcall⟩ := reads_tail h before after
  refine ⟨⟨.page columnNames (scoreFrom p.text) (orderKeys p.text) m (m + 1), callFrom (before.length + 1) p.text, f⟩,
    ?_, ?_⟩
  · obtain ⟨hending, hbehind⟩ := notMem_endTokens p.text m
    -- No condition holds the word at which the order starts.
    have hcut := Sql.cut_at_word (Sql.notMem_of_sentence hf "ORDER" (by decide)) hbehind
    have hread := Select.ofTokens?_eq (notMem_returned p.text) (notMem_sourceTokensFrom p.text (before.length + 1)) hf
      hending hcut (output_page p.text m) (source?_sourceTokensFrom p.text (before.length + 1))
    rw [Select.read?, tokens_pageStatement p limit offset rfl rfl, htokens]
    simpa only [List.append_assoc, List.cons_append] using hread
  · have hparams : (pageStatement p limit offset).params = before ++ Sql.valuesOf (tailPieces p) ++ after := by
      rw [params_pageStatement, params_countStatement]
    have hscore : (scoreFrom p.text).bind? (before ++ Sql.valuesOf (tailPieces p) ++ after) =
        some (score p.settings p.text) := by
      rw [List.append_assoc]
      exact bind?_scoreFrom p.settings p.text _
    -- The limit and the offset are bound behind all other values.
    have hbounds : ∀ k v, Sql.valueAt? after k = some v →
        Sql.valueAt? (before ++ Sql.valuesOf (tailPieces p) ++ after)
          (k + (before.length + (Sql.valuesOf (tailPieces p)).length)) = some v := fun k v hv => by
      have hbetween := Sql.valueAt?_between hv (before ++ Sql.valuesOf (tailPieces p)) []
      rwa [List.append_nil, List.length_append] at hbetween
    have hlimit : Sql.valueAt? (before ++ Sql.valuesOf (tailPieces p) ++ after) m =
        some (.int8 (Int64.ofNat limit.toNat)) := by
      rw [show m = 1 + (before.length + (Sql.valuesOf (tailPieces p)).length) from Nat.add_comm _ _]
      exact hbounds 1 _ rfl
    have hoffset : Sql.valueAt? (before ++ Sql.valuesOf (tailPieces p) ++ after) (m + 1) =
        some (.int8 (Int64.ofNat offset.toNat)) := by
      rw [show m + 1 = 2 + (before.length + (Sql.valuesOf (tailPieces p)).length) from Nat.add_comm _ 2]
      exact hbounds 2 _ rfl
    rw [hparams]
    simp only [Select.bind?, Output.bind?, hscore, hlimit, hoffset, hcall, hbind, Option.bind_some, Option.map_some]
    rfl

end Lookout.Search
