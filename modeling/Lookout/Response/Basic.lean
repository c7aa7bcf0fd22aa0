import Lookout.Binary64
import Lookout.Time.Instant

/-! What a search answers: one page of the events that match, and how many match altogether. -/

namespace Lookout

/-- An event that a search found. -/
structure Hit where
  id : Int64
  cameraId : String
  cameraName : String
  startedAt : Time.Instant
  endedAt : Option Time.Instant
  riskScore : Option Int32
  riskLevel : Option String
  summary : Option String
  reasoning : Option String
  reviewed : Bool
  detectionCount : UInt64
  detectionIds : List Int64
  objectTypes : Option String
  /-- How well the event fits the query, from 0 to 1. -/
  relevance : Binary64
  deriving DecidableEq

/-- One page of a search. -/
structure Response where
  hits : List Hit
  /-- The number of events that match, on all pages. -/
  totalCount : UInt64
  limit : UInt32
  offset : UInt32
  deriving DecidableEq

end Lookout
