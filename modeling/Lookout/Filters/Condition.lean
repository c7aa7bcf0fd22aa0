import Lookout.Filters.Basic
import Lookout.Like
import Lookout.Text.Blank

/-! The conditions that filters put on events. All of them have to hold. They come in a fixed order, at most
    one of each kind, and none is about an empty list. -/

namespace Lookout

/-- A condition on one event. -/
inductive Condition where
  | startedAtOrAfter (t : Time.Instant)
  | startedBefore (t : Time.Instant)
  | cameraIn (ids : List String)
  | severityIn (levels : List String)
  /-- One of the patterns matches the object types. -/
  | objectTypeMatchesAny (patterns : List String)
  | reviewed (b : Bool)
  deriving Repr, DecidableEq

namespace Filters

/-- A condition on a list, unless that is empty. -/
def onList (condition : List String → Condition) : List String → List Condition
  | [] => []
  | xs => [condition xs]

/-- The pattern of the texts that contain `name`, none if that is blank. -/
def objectTypePattern? (name : String) : Option String :=
  match Text.trim name.toList with
  | [] => none
  | trimmed => some (String.ofList (Like.containing trimmed))

/-- The patterns of the object types. -/
def objectTypePatterns (f : Filters) : List String := f.objectTypes.toList.filterMap objectTypePattern?

/-- The conditions of filters. -/
def conditions (f : Filters) : List Condition :=
  f.startDate.toList.map .startedAtOrAfter
    ++ f.endDate.toList.map .startedBefore
    ++ onList .cameraIn f.cameraIds.toList
    ++ onList .severityIn f.severity.toList
    ++ onList .objectTypeMatchesAny f.objectTypePatterns
    ++ f.reviewed.toList.map .reviewed

end Filters
end Lookout
