import Lookout.Filters.Condition
import Lookout.Relevance
import Lookout.Sql.Statement

/-! The two statements of a search. One counts the events that match and one lists a page of them; both end
    in the same source and the same condition. -/

namespace Lookout.Search

open Sql (Piece)

/-- How the text index is used. -/
structure Settings where
  /-- The configuration of the text index. -/
  textSearchConfig : String
  /-- What the rank of an event is multiplied with before it is cut at 1. -/
  rankScale : Binary64
  deriving Repr, DecidableEq

/-- A search whose query and filters were read. -/
structure Plan where
  text : Option TextMatch
  settings : Settings
  conditions : List Condition
  deriving Repr, DecidableEq

namespace Plan

/-- The plan of a search. -/
def ofRequest (settings : Settings) (query : String) (filters : Filters) : Plan :=
  ⟨TextMatch.ofPredicate? (.ofQuery query.toList) query, settings, filters.conditions⟩

/-- The mode of the text side. -/
def mode (p : Plan) : Option Query.MatchMode := p.text.map TextMatch.mode

end Plan

/-- The columns of a page, apart from the score. -/
def columns : List String :=
  ["e.event_id", "e.camera_id", "c.name AS camera_name", "e.started_at", "e.ended_at", "e.risk_score",
   "e.risk_level", "e.summary", "e.reasoning", "e.reviewed", "e.object_types", "e.detection_ids"]

/-- The start of the statement of a page, up to the score. -/
def columnsText : String := "SELECT\n\t" ++ Sql.columnList columns ++ ",\n\t"

def source : String := " FROM events e JOIN cameras c ON c.camera_id = e.camera_id"

/-- A column is like a pattern, in any case. -/
def likePieces (column pattern : String) : List Piece :=
  [.raw column, .raw " ILIKE ", .value (.text pattern), .raw " ESCAPE '\\'"]

/-- The function that reads the text of an index query. -/
def indexFunction : Query.MatchMode → String
  | .explicitBoolean => "to_tsquery"
  | .implicitText => "websearch_to_tsquery"

/-- The index query joins the source under the name `q.tsq`. -/
def textSource (settings : Settings) : Option TextMatch → List Piece
  | none => []
  | some t =>
    [.raw " CROSS JOIN ", .raw (indexFunction t.mode), .raw "(", .value (.text settings.textSearchConfig),
     .raw "::regconfig, ", .value (.text t.indexQuery), .raw ") AS q(tsq)"]

/-- The columns that are searched literally for an event that is not indexed. -/
def fallbackColumns : List String := ["e.summary", "e.reasoning", "e.object_types"]

/-- The condition on the text of an event. -/
def textCondition : Option TextMatch → List Piece
  | none => [.raw "TRUE"]
  | some t =>
    .raw "(e.search_vector @@ q.tsq OR (e.search_vector IS NULL AND ("
      :: Sql.separated " OR " (fallbackColumns.map fun c => likePieces c t.fallbackPattern) ++ [.raw ")))"]

/-- A condition of the filters. -/
def conditionPieces : Condition → List Piece
  | .startedAtOrAfter t => [.raw "e.started_at >= ", .value (.timestamptz t.toMicros)]
  | .startedBefore t => [.raw "e.started_at < ", .value (.timestamptz t.toMicros)]
  | .cameraIn ids => [.raw "e.camera_id = ANY(", .value (.textArray ids), .raw ")"]
  | .severityIn levels => [.raw "e.risk_level = ANY(", .value (.textArray levels), .raw ")"]
  | .objectTypeMatchesAny patterns =>
    .raw "(" :: Sql.separated " OR " (patterns.map (likePieces "e.object_types")) ++ [.raw ")"]
  | .reviewed b => [.raw "e.reviewed = ", .value (.bool b)]

/-- All conditions of a search. -/
def wherePieces (p : Plan) : List Piece :=
  .raw " WHERE " :: textCondition p.text ++ p.conditions.flatMap fun c => .raw " AND " :: conditionPieces c

/-- The source and the conditions, which both statements share. -/
def tailPieces (p : Plan) : List Piece := .raw source :: textSource p.settings p.text ++ wherePieces p

/-- The score of an event, from 0 to 1. -/
def scorePieces (settings : Settings) : Option TextMatch → List Piece
  | none => [.raw "0.0::float8 AS relevance_score"]
  | some _ =>
    [.raw "LEAST(COALESCE(ts_rank(e.search_vector, q.tsq), 0)::float8 * ", .value (.float8 settings.rankScale),
     .raw ", 1.0::float8) AS relevance_score"]

/-- The order of the events on the pages: the better, then the later, then the one recorded later. -/
def orderText : Option TextMatch → String
  | none => " ORDER BY e.started_at DESC, e.event_id DESC"
  | some _ => " ORDER BY relevance_score DESC, e.started_at DESC, e.event_id DESC"

/-- The statement that counts the events that match. -/
def countStatement (p : Plan) : Sql.Statement := .ofPieces (.raw "SELECT COUNT(*)" :: tailPieces p)

/-- A number of events as a value. -/
def amount (n : UInt32) : Piece := .value (.int8 (Int64.ofNat n.toNat))

/-- The statement that lists a page of the events that match. -/
def pageStatement (p : Plan) (limit offset : UInt32) : Sql.Statement :=
  .ofPieces (.raw columnsText :: scorePieces p.settings p.text ++ tailPieces p
    ++ [.raw (orderText p.text), .raw " LIMIT ", amount limit, .raw " OFFSET ", amount offset])

end Lookout.Search
