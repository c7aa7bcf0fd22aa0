import Lookout.Proofs.Search.Tail
import Lookout.Proofs.Sql.Clause

/-! Which events a search selects. The condition of a search reads as a condition on one event, and it is true
    exactly of the events that are wanted: those that fit the text of the query and every filter. -/

namespace Lookout.Search

open Sql (Formula Writes Param Cell Datum Piece Connective)

/-! ### Events -/

/-- What a database offers for texts, with vectors of the type `ν` and index queries of the type `κ`. -/
structure Engine (ν κ : Type) where
  /-- The index query of a text, read by a function under a configuration. -/
  read : String → String → String → κ
  /-- The vector is found by the index query. -/
  finds : ν → κ → Bool
  /-- The score of an event with this vector, if it has one, when ranks are multiplied with the number. -/
  score : Binary64 → κ → Option ν → Binary64
  folding : Like.Folding

/-- An event with its camera, as a search finds it. Timestamps are microseconds since 1970. -/
structure EventRow (ν : Type) where
  eventId : Int64
  cameraId : String
  cameraName : String
  startedAt : Int
  endedAt : Option Int
  riskScore : Option Int32
  riskLevel : Option String
  summary : Option String
  reasoning : Option String
  reviewed : Bool
  objectTypes : Option String
  detectionIds : Option String
  /-- The vector of the text index, if the event has its place in it. -/
  vector : Option ν

variable {ν κ : Type}

namespace EventRow

/-- The cell of a text that may be missing. -/
def textCell (s : Option String) : Cell := s.elim .null .text

/-- What the columns of the source hold. -/
def datum? (row : EventRow ν) (column : String) : Option (Datum ν) :=
  match column with
  | "e.event_id" => some (.cell (.int row.eventId.toInt))
  | "e.camera_id" => some (.cell (.text row.cameraId))
  | "c.name" => some (.cell (.text row.cameraName))
  | "e.started_at" => some (.cell (.int row.startedAt))
  | "e.ended_at" => some (.cell (row.endedAt.elim .null .int))
  | "e.risk_score" => some (.cell (row.riskScore.elim .null fun i => .int i.toInt))
  | "e.risk_level" => some (.cell (textCell row.riskLevel))
  | "e.summary" => some (.cell (textCell row.summary))
  | "e.reasoning" => some (.cell (textCell row.reasoning))
  | "e.reviewed" => some (.cell (.bool row.reviewed))
  | "e.object_types" => some (.cell (textCell row.objectTypes))
  | "e.detection_ids" => some (.cell (textCell row.detectionIds))
  | "e.search_vector" => some (.vector row.vector)
  | _ => none

/-- The names of a condition in the row, when the source has this index query. -/
def scope (engine : Engine ν κ) (tsq : Option κ) (row : EventRow ν) : Sql.Scope ν κ where
  column? := row.datum?
  query? name := if name = "q.tsq" then tsq else none
  finds := engine.finds
  folding := engine.folding

/-- The texts of the row that are searched literally, as far as they are not null. -/
def fallbackTexts (row : EventRow ν) : List String :=
  row.summary.toList ++ row.reasoning.toList ++ row.objectTypes.toList

end EventRow

/-- The event is wanted by a search: it fits the text, which `found` tests for the events of the text index, and
    every filter that is set. -/
structure Wanted (φ : Like.Folding) (found : ν → Bool) (query : String) (filters : Filters) (row : EventRow ν) :
    Prop where
  text : (Query.Predicate.ofQuery query.toList).isEmpty = true ∨ (∃ v, row.vector = some v ∧ found v = true) ∨
    (row.vector = none ∧ ∃ t ∈ row.fallbackTexts, φ.Occurs (Text.trim query.toList) t.toList)
  start : ∀ t, filters.startDate = some t → t.toMicros ≤ row.startedAt
  stop : ∀ t, filters.endDate = some t → row.startedAt < t.toMicros
  camera : filters.cameraIds.toList ≠ [] → row.cameraId ∈ filters.cameraIds.toList
  severity : filters.severity.toList ≠ [] → ∃ level ∈ filters.severity.toList, row.riskLevel = some level
  objectType : (∃ name ∈ filters.objectTypes.toList, Text.trim name.toList ≠ []) →
    ∃ name ∈ filters.objectTypes.toList, Text.trim name.toList ≠ [] ∧
      ∃ t, row.objectTypes = some t ∧ φ.Occurs (Text.trim name.toList) t.toList
  reviewed : ∀ b, filters.reviewed = some b → row.reviewed = b

/-! ### The condition of a search -/

/-- The condition that one of the columns is like its pattern. -/
def anyLike : List (String × String) → Formula Param
  | [] => .neg .truth
  | x :: xs => xs.foldl (fun F y => .join .or F (.compare .like y.1 (.text y.2))) (.compare .like x.1 (.text x.2))

/-- The condition for the text of a plan: the index query finds the vector, or there is none and a column is like the
    pattern. -/
def textFormula : Option TextMatch → Formula Param
  | none => .truth
  | some t =>
    .join .or (.finds "e.search_vector" "q.tsq")
      (.join .and (.isNull "e.search_vector") (anyLike (fallbackColumns.map fun c => (c, t.fallbackPattern))))

/-- The condition of a statement that stands for a condition of a plan. -/
def conditionFormula : Condition → Formula Param
  | .startedAtOrAfter t => .compare .atLeast "e.started_at" (.timestamptz t.toMicros)
  | .startedBefore t => .compare .below "e.started_at" (.timestamptz t.toMicros)
  | .cameraIn ids => .compare .among "e.camera_id" (.textArray ids)
  | .severityIn levels => .compare .among "e.risk_level" (.textArray levels)
  | .objectTypeMatchesAny patterns => anyLike (patterns.map fun p => ("e.object_types", p))
  | .reviewed b => .compare .equal "e.reviewed" (.bool b)

namespace Plan

/-- The condition of the statements of a plan. -/
def formula (p : Plan) : Formula Param :=
  p.conditions.foldl (fun F c => .join .and F (conditionFormula c)) (textFormula p.text)

end Plan

/-! ### What is written -/

theorem writes_likePieces {column : String} (h : column ∈ fallbackColumns) (pattern : String) :
    Writes [] (likePieces column pattern) (.compare .like column (.text pattern)) := by
  have hlike : Sql.tokens " ILIKE ".toList = ["ILIKE"] := by decide
  have hescape : Sql.tokens " ESCAPE '\\'".toList = ["ESCAPE", "'\\'"] := by decide
  have hcolumns : ∀ c ∈ fallbackColumns, Sql.isQualified c = true ∧ Sql.tokens c.toList = [c] := by decide
  refine .compare (parted_likePieces h pattern) .like (hcolumns column h).1 rfl fun n => ?_
  simp only [likePieces, Sql.tokensFrom_raw, Sql.tokensFrom_value, Sql.tokensFrom_nil, (hcolumns column h).2, hlike,
    hescape, Sql.Comparison.tokens, List.cons_append, List.nil_append, List.append_nil]

/-- Columns and patterns with an `OR` between any two. -/
theorem writes_anyLike (likes : List (String × String)) (hne : likes ≠ [])
    (h : ∀ like ∈ likes, like.1 ∈ fallbackColumns) :
    Writes Connective.or.level (Sql.separated " OR " (likes.map fun like => likePieces like.1 like.2))
      (anyLike likes) := by
  obtain ⟨x, xs, rfl⟩ := List.exists_cons_of_ne_nil hne
  obtain ⟨hx, hxs⟩ := List.forall_mem_cons.mp h
  rw [List.map_cons, Sql.separated_cons, List.flatMap_map]
  refine ((writes_likePieces hx x.2).loosen Connective.or.level).joins fun y hy => ?_
  exact (writes_likePieces (hxs y hy) y.2).loosen Connective.or.tighter

/-- The text of an event that is not indexed is compared with the pattern. -/
theorem writes_unindexed (pattern : String) :
    Writes Connective.and.level
      ([.raw "e.search_vector IS NULL"] ++ .raw " AND " ::
        (.raw "(" :: Sql.separated " OR " (fallbackColumns.map fun c => likePieces c pattern) ++ [.raw ")"]))
      (.join .and (.isNull "e.search_vector") (anyLike (fallbackColumns.map fun c => (c, pattern)))) := by
  have hnull : Writes [] [.raw "e.search_vector IS NULL"] (.isNull "e.search_vector") := .atom rfl rfl fun _ => rfl
  have hlikes := writes_anyLike (fallbackColumns.map fun c => (c, pattern)) (by simp [fallbackColumns]) (by simp)
  rw [List.map_map] at hlikes
  exact (hnull.loosen Connective.and.level).join hlikes.group

theorem writes_textCondition (text : Option TextMatch) : Writes [] (textCondition text) (textFormula text) := by
  cases text with
  | none => exact .atom rfl rfl fun _ => rfl
  | some t =>
    have hfinds : Writes [] [.raw "e.search_vector @@ q.tsq"] (.finds "e.search_vector" "q.tsq") :=
      .atom rfl rfl fun _ => rfl
    have hunindexed := ((writes_unindexed t.fallbackPattern).loosen [("OR", .join .or)]).group
    have hboth := ((hfinds.loosen Connective.or.level).join (hunindexed.loosen Connective.or.tighter)).group
    have hopening : Sql.tokens "(e.search_vector @@ q.tsq OR (e.search_vector IS NULL AND (".toList =
        ["(", "e.search_vector", "@@", "q.tsq", "OR", "(", "e.search_vector", "IS", "NULL", "AND", "("] :=
      Sql.tokens_literal rfl (by decide +kernel)
    have hparen : Sql.tokens "(".toList = ["("] := by decide
    have hfound : Sql.tokens "e.search_vector @@ q.tsq".toList = ["e.search_vector", "@@", "q.tsq"] := by decide
    have hor : Sql.tokens " OR ".toList = ["OR"] := by decide
    have hnull : Sql.tokens "e.search_vector IS NULL".toList = ["e.search_vector", "IS", "NULL"] := by decide
    have hand : Sql.tokens " AND ".toList = ["AND"] := by decide
    have hclosing : Sql.tokens ")".toList = [")"] ∧ Sql.tokens ")))".toList = [")", ")", ")"] := by decide
    refine hboth.of_tokensFrom (parted_textCondition (some t)) (fun n => ?_) ?_
    · simp only [textCondition, Connective.separator, Sql.tokensFrom_append, Sql.tokensFrom_raw, Sql.tokensFrom_nil,
        hopening, hparen, hfound, hor, hnull, hand, hclosing, List.cons_append, List.nil_append, List.append_assoc,
        List.append_nil]
    · simp [textCondition]

/-- A condition is written by its pieces, unless it is about no pattern. -/
theorem writes_conditionPieces {c : Condition} (h : c ≠ .objectTypeMatchesAny []) :
    Writes [] (conditionPieces c) (conditionFormula c) := by
  have hparted := parted_conditionPieces c
  have hclosing : Sql.tokens ")".toList = [")"] := by decide
  cases c with
  | startedAtOrAfter t =>
    have htext : Sql.tokens "e.started_at >= ".toList = ["e.started_at", ">="] := by decide
    refine .compare hparted .atLeast rfl rfl fun n => ?_
    simp only [conditionPieces, Sql.tokensFrom_raw, Sql.tokensFrom_value, htext]
    rfl
  | startedBefore t =>
    have htext : Sql.tokens "e.started_at < ".toList = ["e.started_at", "<"] := by decide
    refine .compare hparted .below rfl rfl fun n => ?_
    simp only [conditionPieces, Sql.tokensFrom_raw, Sql.tokensFrom_value, htext]
    rfl
  | cameraIn ids =>
    have htext : Sql.tokens "e.camera_id = ANY(".toList = ["e.camera_id", "=", "ANY", "("] := by decide
    refine .compare hparted .among rfl rfl fun n => ?_
    simp only [conditionPieces, Sql.tokensFrom_raw, Sql.tokensFrom_value, htext, hclosing]
    rfl
  | severityIn levels =>
    have htext : Sql.tokens "e.risk_level = ANY(".toList = ["e.risk_level", "=", "ANY", "("] := by decide
    refine .compare hparted .among rfl rfl fun n => ?_
    simp only [conditionPieces, Sql.tokensFrom_raw, Sql.tokensFrom_value, htext, hclosing]
    rfl
  | reviewed b =>
    have htext : Sql.tokens "e.reviewed = ".toList = ["e.reviewed", "="] := by decide
    refine .compare hparted .equal rfl rfl fun n => ?_
    simp only [conditionPieces, Sql.tokensFrom_raw, Sql.tokensFrom_value, htext]
    rfl
  | objectTypeMatchesAny patterns =>
    have hne : patterns.map (fun p => ("e.object_types", p)) ≠ [] := by simpa using h
    -- One comparison for each pattern, joined in parentheses; without a pattern there would be nothing between them.
    have hlikes := writes_anyLike (patterns.map fun p => ("e.object_types", p)) hne (by simp [fallbackColumns])
    rw [List.map_map] at hlikes
    exact hlikes.group

/-- The condition of a search behind the word `WHERE`. -/
def clausePieces (p : Plan) : List Piece :=
  textCondition p.text ++ p.conditions.flatMap fun c => .raw " AND " :: conditionPieces c

theorem wherePieces_eq (p : Plan) : wherePieces p = .raw " WHERE " :: clausePieces p := rfl

theorem writes_clausePieces {p : Plan} (h : ∀ c ∈ p.conditions, c ≠ .objectTypeMatchesAny []) :
    Writes Formula.operators.binary (clausePieces p) p.formula := by
  have htext : Writes Connective.and.level (textCondition p.text) (textFormula p.text) :=
    (writes_textCondition p.text).loosen Connective.and.level
  exact (htext.joins fun c hc => writes_conditionPieces (h c hc)).loosen [("OR", .join .or)]

/-! ### What holds in a row -/

/-- What a condition of a plan says of an event. -/
def Holds (φ : Like.Folding) (row : EventRow ν) : Condition → Prop
  | .startedAtOrAfter t => t.toMicros ≤ row.startedAt
  | .startedBefore t => row.startedAt < t.toMicros
  | .cameraIn ids => row.cameraId ∈ ids
  | .severityIn levels => ∃ level ∈ levels, row.riskLevel = some level
  | .objectTypeMatchesAny patterns =>
    ∃ p ∈ patterns, ∃ t, row.objectTypes = some t ∧ φ.ilike? p.toList t.toList = some true
  | .reviewed b => row.reviewed = b

variable {engine : Engine ν κ} {tsq : Option κ} {row : EventRow ν}

theorem truth?_compare {column : String} {c : Cell} (hcolumn : row.datum? column = some (.cell c))
    (r : Sql.Comparison) (p : Param) :
    (Formula.compare r column p).truth? (row.scope engine tsq) = r.truth? engine.folding c p := by
  simp only [Formula.truth?, EventRow.scope, hcolumn]

/-- A text column is like the pattern of the texts that contain `s` if `s` occurs in it. -/
theorem decides_like {column : String} {text : Option String}
    (hcolumn : row.datum? column = some (.cell (EventRow.textCell text))) (s : List Char) :
    Formula.Decides (row.scope engine tsq) (.compare .like column (.text (String.ofList (Like.containing s))))
      (∃ t, text = some t ∧ engine.folding.Occurs s t.toList) := by
  cases text with
  | none => exact ⟨none, truth?_compare hcolumn _ _, by simp⟩
  | some t =>
    refine ⟨some (decide (engine.folding.Occurs s t.toList)), ?_, by simp⟩
    have hlike : Sql.Comparison.like.holds? engine.folding (.text t) (.text (String.ofList (Like.containing s))) =
        some (decide (engine.folding.Occurs s t.toList)) := by
      rw [Sql.Comparison.holds?, String.toList_ofList, Like.Folding.ilike?_containing]
    rw [truth?_compare hcolumn, EventRow.textCell, Option.elim_some, Sql.Comparison.truth?, hlike] <;> simp

theorem decides_among {column : String} {text : Option String}
    (hcolumn : row.datum? column = some (.cell (EventRow.textCell text))) (xs : List String) :
    Formula.Decides (row.scope engine tsq) (.compare .among column (.textArray xs)) (∃ x ∈ xs, text = some x) := by
  cases text with
  | none => exact ⟨none, truth?_compare hcolumn _ _, by simp⟩
  | some t => exact ⟨some (xs.contains t), truth?_compare hcolumn _ _, by simp⟩

theorem decides_anyLike {likes : List (String × String)} {R : String × String → Prop} (hne : likes ≠ [])
    (h : ∀ like ∈ likes, Formula.Decides (row.scope engine tsq) (.compare .like like.1 (.text like.2)) (R like)) :
    Formula.Decides (row.scope engine tsq) (anyLike likes) (∃ like ∈ likes, R like) := by
  obtain ⟨x, xs, rfl⟩ := List.exists_cons_of_ne_nil hne
  obtain ⟨hx, hxs⟩ := List.forall_mem_cons.mp h
  exact (Formula.Decides.any hx hxs).congr (by simp)

/-- An event fits the text if the index finds it, or if it has no place there and the text occurs in it. -/
theorem decides_textFormula {t : TextMatch} {s : List Char} {q : κ}
    (ht : t.fallbackPattern = String.ofList (Like.containing s)) :
    Formula.Decides (row.scope engine (some q)) (textFormula (some t))
      ((∃ v, row.vector = some v ∧ engine.finds v q = true) ∨
        (row.vector = none ∧ ∃ text ∈ row.fallbackTexts, engine.folding.Occurs s text.toList)) := by
  have hfinds : Formula.Decides (row.scope engine (some q)) (.finds "e.search_vector" "q.tsq")
      (∃ v, row.vector = some v ∧ engine.finds v q = true) := by
    refine ⟨row.vector.map (engine.finds · q), rfl, ?_⟩
    rw [Option.map_eq_some_iff]
  -- An event without a vector is told from one that the index does not find.
  have hnull : Formula.Decides (row.scope engine (some q)) (.isNull "e.search_vector") (row.vector = none) := by
    refine ⟨some row.vector.isNone, rfl, ?_⟩
    simp
  have hlikes : Formula.Decides (row.scope engine (some q))
      (anyLike (fallbackColumns.map fun c => (c, t.fallbackPattern)))
      (∃ text ∈ row.fallbackTexts, engine.folding.Occurs s text.toList) := by
    have hlike : ∀ {column text}, row.datum? column = some (.cell (EventRow.textCell text)) →
        Formula.Decides (row.scope engine (some q)) (.compare .like column (.text t.fallbackPattern))
          (∃ u, text = some u ∧ engine.folding.Occurs s u.toList) := fun hcolumn => ht ▸ decides_like hcolumn s
    have hsummary : Formula.Decides _ (.compare .like "e.summary" _) _ := hlike rfl
    have hreasoning : Formula.Decides _ (.compare .like "e.reasoning" _) _ := hlike rfl
    have htypes : Formula.Decides _ (.compare .like "e.object_types" _) _ := hlike rfl
    refine ((hsummary.or hreasoning).or htypes).congr ?_
    simp only [EventRow.fallbackTexts, List.mem_append, Option.mem_toList, or_and_right, exists_or]
  exact hfinds.or (hnull.and hlikes)

theorem decides_conditionFormula {c : Condition}
    (h : ∀ patterns, c = .objectTypeMatchesAny patterns →
      patterns ≠ [] ∧ ∀ p ∈ patterns, ∃ s, p = String.ofList (Like.containing s)) :
    Formula.Decides (row.scope engine tsq) (conditionFormula c) (Holds engine.folding row c) := by
  cases c with
  | startedAtOrAfter t => exact ⟨some (t.toMicros ≤ row.startedAt), rfl, by simp [Holds]⟩
  | startedBefore t => exact ⟨some (row.startedAt < t.toMicros), rfl, by simp [Holds]⟩
  | cameraIn ids =>
    have hcamera : row.datum? "e.camera_id" = some (.cell (EventRow.textCell (some row.cameraId))) := rfl
    exact (decides_among hcamera ids).congr (by simp [Holds])
  | severityIn levels => exact decides_among rfl levels
  | reviewed b => exact ⟨some (row.reviewed == b), rfl, by simp [Holds]⟩
  | objectTypeMatchesAny patterns =>
    obtain ⟨hne, hpatterns⟩ := h patterns rfl
    have hlikes : ∀ like ∈ patterns.map fun p => ("e.object_types", p),
        Formula.Decides (row.scope engine tsq) (.compare .like like.1 (.text like.2))
          (∃ t, row.objectTypes = some t ∧ engine.folding.ilike? like.2.toList t.toList = some true) := by
      intro like hlike
      obtain ⟨p, hp, rfl⟩ := List.mem_map.mp hlike
      obtain ⟨s, rfl⟩ := hpatterns p hp
      refine (decides_like rfl s).congr ?_
      simp [Like.Folding.ilike?_containing]
    exact (decides_anyLike (by simpa using hne) hlikes).congr (by simp [Holds])

/-! ### The events that a request wants -/

theorem objectTypePatterns_eq (filters : Filters) :
    filters.objectTypePatterns =
      ((filters.objectTypes.toList.map fun name => Text.trim name.toList).filter (!·.isEmpty)).map fun s =>
        String.ofList (Like.containing s) := by
  rw [Filters.objectTypePatterns]
  induction filters.objectTypes.toList with
  | nil => rfl
  | cons name names ih =>
    rw [List.filterMap_cons, List.map_cons, List.filter_cons, ih]
    cases h : Text.trim name.toList with
    | nil => simp [Filters.objectTypePattern?, h]
    | cons c s => simp [Filters.objectTypePattern?, h]

section
variable {settings : Settings} {query : String} {filters : Filters} {t : TextMatch}

theorem Plan.eq_of_text (h : (Plan.ofRequest settings query filters).text = some t) :
    let p := Query.Predicate.ofQuery query.toList
    t.mode = p.mode ∧ t.fallbackPattern = String.ofList (Like.containing (Text.trim query.toList)) ∧
      t.indexQuery = match p.mode with
        | .explicitBoolean => String.ofList p.text
        | .implicitText => query := by
  rw [Plan.ofRequest, TextMatch.ofPredicate?] at h
  split at h
  · cases h
  · obtain rfl := Option.some.inj h
    exact ⟨rfl, rfl, rfl⟩

theorem Plan.fallbackPattern_eq (h : (Plan.ofRequest settings query filters).text = some t) :
    t.fallbackPattern = String.ofList (Like.containing (Text.trim query.toList)) :=
  (Plan.eq_of_text h).2.1

end

theorem forall_conditions (filters : Filters) (R : Condition → Prop) :
    (∀ c ∈ filters.conditions, R c) ↔
      (∀ t, filters.startDate = some t → R (.startedAtOrAfter t)) ∧
      (∀ t, filters.endDate = some t → R (.startedBefore t)) ∧
      (filters.cameraIds.toList ≠ [] → R (.cameraIn filters.cameraIds.toList)) ∧
      (filters.severity.toList ≠ [] → R (.severityIn filters.severity.toList)) ∧
      (filters.objectTypePatterns ≠ [] → R (.objectTypeMatchesAny filters.objectTypePatterns)) ∧
      (∀ b, filters.reviewed = some b → R (.reviewed b)) := by
  have hlist : ∀ condition xs, (∀ c ∈ Filters.onList condition xs, R c) ↔ (xs ≠ [] → R (condition xs)) := by
    intro condition xs
    cases xs <;> simp [Filters.onList]
  have hoption : ∀ {α : Type} (condition : α → Condition) (o : Option α),
      (∀ c ∈ o.toList.map condition, R c) ↔ ∀ a, o = some a → R (condition a) := by
    intro α condition o
    simp
  simp only [Filters.conditions, List.mem_append, or_imp, forall_and, hlist, hoption, and_assoc]

/-- A condition on the object types has patterns, and each is that of the texts that contain one text. -/
theorem patterns_of_mem_conditions {filters : Filters} {c : Condition} (h : c ∈ filters.conditions) :
    ∀ patterns, c = .objectTypeMatchesAny patterns →
      patterns ≠ [] ∧ ∀ p ∈ patterns, ∃ s, p = String.ofList (Like.containing s) := by
  revert c
  rw [forall_conditions]
  refine ⟨by simp, by simp, by simp, by simp, fun hne patterns he => ?_, by simp⟩
  obtain rfl := Condition.objectTypeMatchesAny.inj he
  refine ⟨hne, fun p hp => ?_⟩
  rw [objectTypePatterns_eq] at hp
  obtain ⟨s, -, rfl⟩ := List.mem_map.mp hp
  exact ⟨s, rfl⟩

theorem writes_ofRequest (settings : Settings) (query : String) (filters : Filters) :
    let p := Plan.ofRequest settings query filters
    Writes Formula.operators.binary (clausePieces p) p.formula := by
  intro p
  refine writes_clausePieces fun c hc he => ?_
  exact (patterns_of_mem_conditions hc [] he).1 rfl

/-- An event is wanted if it fits the text and the conditions of the filters hold. -/
theorem wanted_iff {φ : Like.Folding} {found : ν → Bool} {query : String} {filters : Filters} {row : EventRow ν} :
    Wanted φ found query filters row ↔
      ((Query.Predicate.ofQuery query.toList).isEmpty = true ∨ (∃ v, row.vector = some v ∧ found v = true) ∨
        (row.vector = none ∧ ∃ t ∈ row.fallbackTexts, φ.Occurs (Text.trim query.toList) t.toList)) ∧
      ∀ c ∈ filters.conditions, Holds φ row c := by
  have htypes : (filters.objectTypePatterns ≠ [] → Holds φ row (.objectTypeMatchesAny filters.objectTypePatterns)) ↔
      ((∃ name ∈ filters.objectTypes.toList, Text.trim name.toList ≠ []) →
        ∃ name ∈ filters.objectTypes.toList, Text.trim name.toList ≠ [] ∧
          ∃ t, row.objectTypes = some t ∧ φ.Occurs (Text.trim name.toList) t.toList) := by
    rw [objectTypePatterns_eq]
    simp [Holds, Like.Folding.ilike?_containing, and_assoc]
  rw [forall_conditions, htypes]
  constructor
  · rintro ⟨htext, hstart, hstop, hcamera, hseverity, htype, hreviewed⟩
    exact ⟨htext, hstart, hstop, hcamera, hseverity, htype, hreviewed⟩
  · rintro ⟨htext, hstart, hstop, hcamera, hseverity, htype, hreviewed⟩
    exact ⟨htext, hstart, hstop, hcamera, hseverity, htype, hreviewed⟩

/-- The condition of a search has a value for every event, and is true exactly of those that are wanted. -/
theorem decides_formula (settings : Settings) (query : String) (filters : Filters) (engine : Engine ν κ) (q : κ)
    (row : EventRow ν) :
    let p := Plan.ofRequest settings query filters
    Formula.Decides (row.scope engine (p.text.map fun _ => q)) p.formula
      (Wanted engine.folding (engine.finds · q) query filters row) := by
  intro p
  have hconditions : ∀ c ∈ p.conditions, Formula.Decides (row.scope engine (p.text.map fun _ => q))
      (conditionFormula c) (Holds engine.folding row c) := by
    intro c hc
    exact decides_conditionFormula (patterns_of_mem_conditions hc)
  have htext : Formula.Decides (row.scope engine (p.text.map fun _ => q)) (textFormula p.text)
      ((Query.Predicate.ofQuery query.toList).isEmpty = true ∨
        (∃ v, row.vector = some v ∧ engine.finds v q = true) ∨
        (row.vector = none ∧ ∃ t ∈ row.fallbackTexts, engine.folding.Occurs (Text.trim query.toList) t.toList)) := by
    cases ht : p.text with
    -- Without terms every event fits the text.
    | none => exact ⟨some true, rfl, by simp [Plan.text_eq_none.mp ht]⟩
    | some t =>
      have hne : (Query.Predicate.ofQuery query.toList).isEmpty = false := by
        refine Bool.eq_false_iff.mpr fun he => ?_
        rw [show p.text = none from Plan.text_eq_none.mpr he] at ht
        cases ht
      exact (decides_textFormula (Plan.fallbackPattern_eq ht)).congr (by simp [hne])
  exact (htext.all hconditions).congr wanted_iff.symm

end Lookout.Search
