import Lookout.Filters.Basic
import Lookout.Time.Json

/-! Filters as JSON. Every field may be left out. -/

namespace Lookout.Filters

def fieldNames : List String := ["start_date", "end_date", "camera_ids", "severity", "object_types", "reviewed"]

/-- A set of texts, written as an array in any order and with any repetition. -/
def textSet? (t : Json.Tree) : Option TextSet := (t.list? Json.Tree.text?).map TextSet.ofList

/-- The filters of a JSON text that was read. -/
def ofJson? (t : Json.Tree) : Option Filters := do
  match ← t.record? fieldNames false with
  | [startDate, endDate, cameraIds, severity, objectTypes, reviewed] =>
    some
      { startDate := ← Json.Tree.optional? Time.Instant.ofJson? startDate
        endDate := ← Json.Tree.optional? Time.Instant.ofJson? endDate
        cameraIds := ← Json.Tree.orElse? .empty textSet? cameraIds
        severity := ← Json.Tree.orElse? .empty textSet? severity
        objectTypes := ← Json.Tree.orElse? .empty textSet? objectTypes
        reviewed := ← Json.Tree.optional? Json.Tree.bool? reviewed }
  | _ => none

/-- The filters of a JSON text. -/
def ofText? (s : List Char) : Option Filters := (Json.Tree.ofText? s).bind ofJson?

def setToJson (s : TextSet) : Json.Value := .array (s.toList.map Json.Value.ofString)

/-- Filters as a JSON value, unless a date has no text. -/
def toJson (f : Filters) : Except Time.WriteError Json.Value := do
  let startDate ← Time.Instant.optionToJson f.startDate
  let endDate ← Time.Instant.optionToJson f.endDate
  return .ofFields
    [("start_date", startDate), ("end_date", endDate), ("camera_ids", setToJson f.cameraIds),
     ("severity", setToJson f.severity), ("object_types", setToJson f.objectTypes),
     ("reviewed", .ofOption .bool f.reviewed)]

end Lookout.Filters
