import Lookout.TextSet
import Lookout.Time.Instant

/-! What a search may ask of events beside their text. What is not set does not constrain. -/

namespace Lookout

/-- The structured constraints of a search. -/
structure Filters where
  /-- The first start that is wanted. -/
  startDate : Option Time.Instant
  /-- The first start that is not wanted any more. -/
  endDate : Option Time.Instant
  cameraIds : TextSet
  severity : TextSet
  /-- Texts of which one has to occur among the object types, in any case. -/
  objectTypes : TextSet
  reviewed : Option Bool
  deriving DecidableEq

namespace Filters

/-- Filters that let every event pass. -/
def unset : Filters := ⟨none, none, .empty, .empty, .empty, none⟩

/-- One choice about events. Of dates and review states the last one holds; the others add up. -/
inductive Choice where
  | startingAt (t : Time.Instant)
  | endingBefore (t : Time.Instant)
  | camera (id : String)
  | severity (level : String)
  | objectType (name : String)
  | reviewed (b : Bool)
  deriving DecidableEq

/-- The filters with one more choice. -/
def choose (f : Filters) : Choice → Filters
  | .startingAt t => { f with startDate := some t }
  | .endingBefore t => { f with endDate := some t }
  | .camera id => { f with cameraIds := f.cameraIds.insert id }
  | .severity level => { f with severity := f.severity.insert level }
  | .objectType name => { f with objectTypes := f.objectTypes.insert name }
  | .reviewed b => { f with reviewed := some b }

/-- The filters of a sequence of choices. -/
def ofChoices (choices : List Choice) : Filters := choices.foldl choose unset

end Filters
end Lookout
