import Lookout.Response.Basic
import Lookout.Time.Json

/-! Responses as JSON. In an object the fields that may be absent may be left out, except the end of an
    event, which has to be written as null; an array has to be complete. -/

namespace Lookout

open Json (Value Tree)

namespace Hit

def fieldNames : List String :=
  ["id", "camera_id", "camera_name", "started_at", "ended_at", "risk_score", "risk_level", "summary", "reasoning",
   "reviewed", "detection_count", "detection_ids", "object_types", "relevance_score"]

def ofJson? (t : Tree) : Option Hit := do
  match ← t.record? fieldNames true with
  | [id, cameraId, cameraName, startedAt, endedAt, riskScore, riskLevel, summary, reasoning, reviewed,
      detectionCount, detectionIds, objectTypes, relevance] =>
    some
      { id := ← Tree.required? Tree.int64? id
        cameraId := ← Tree.required? Tree.text? cameraId
        cameraName := ← Tree.required? Tree.text? cameraName
        startedAt := ← Tree.required? Time.Instant.ofJson? startedAt
        endedAt := ← Tree.required? (Tree.nullable? Time.Instant.ofJson?) endedAt
        riskScore := ← Tree.optional? Tree.int32? riskScore
        riskLevel := ← Tree.optional? Tree.text? riskLevel
        summary := ← Tree.optional? Tree.text? summary
        reasoning := ← Tree.optional? Tree.text? reasoning
        reviewed := ← Tree.required? Tree.bool? reviewed
        detectionCount := ← Tree.required? Tree.uint64? detectionCount
        detectionIds := ← Tree.required? (Tree.list? Tree.int64?) detectionIds
        objectTypes := ← Tree.optional? Tree.text? objectTypes
        relevance := ← Tree.required? Tree.binary64? relevance }
  | _ => none

/-- A hit as a JSON value, unless one of its instants has no text. -/
def toJson (h : Hit) : Except Time.WriteError Value := do
  let startedAt ← h.startedAt.toJson
  let endedAt ← Time.Instant.optionToJson h.endedAt
  return .ofFields
    [("id", .ofInt64 h.id), ("camera_id", .ofString h.cameraId), ("camera_name", .ofString h.cameraName),
     ("started_at", startedAt), ("ended_at", endedAt),
     ("risk_score", .ofOption (fun n => .ofInt64 n.toInt64) h.riskScore),
     ("risk_level", .ofOption .ofString h.riskLevel), ("summary", .ofOption .ofString h.summary),
     ("reasoning", .ofOption .ofString h.reasoning), ("reviewed", .bool h.reviewed),
     ("detection_count", .ofUInt64 h.detectionCount),
     ("detection_ids", .array (h.detectionIds.map .ofInt64)),
     ("object_types", .ofOption .ofString h.objectTypes), ("relevance_score", .number (.float h.relevance))]

end Hit

namespace Response

def fieldNames : List String := ["results", "total_count", "limit", "offset"]

def ofJson? (t : Tree) : Option Response := do
  match ← t.record? fieldNames true with
  | [hits, totalCount, limit, offset] =>
    some
      { hits := ← Tree.required? (Tree.list? Hit.ofJson?) hits
        totalCount := ← Tree.required? Tree.uint64? totalCount
        limit := ← Tree.required? Tree.uint32? limit
        offset := ← Tree.required? Tree.uint32? offset }
  | _ => none

/-- The response of a JSON text. -/
def ofText? (s : List Char) : Option Response := (Tree.ofText? s).bind ofJson?

/-- A response as a JSON value, unless one of its instants has no text. -/
def toJson (r : Response) : Except Time.WriteError Value := do
  let hits ← r.hits.mapM Hit.toJson
  return .ofFields
    [("results", .array hits), ("total_count", .ofUInt64 r.totalCount),
     ("limit", .ofUInt64 r.limit.toUInt64), ("offset", .ofUInt64 r.offset.toUInt64)]

end Response
end Lookout
