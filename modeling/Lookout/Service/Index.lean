import Lookout.Service.Error
import Lookout.Storage.Operations

/-! The upkeep of the text index. -/

namespace Lookout.Service

open Dialogue (Fallible)

/-- Index all events that are not indexed yet. The result is their number. -/
def backfillIndex (config : String) (batch : UInt32) : Fallible Error UInt64 :=
  if batch = 0 then throw .emptyBatch else Dialogue.mapError .ofStorage (Storage.backfill config batch)

/-- Index one event again after its text changed. -/
def reindexEvent (config : String) (eventId : Int64) : Fallible Error Unit :=
  Dialogue.mapError .ofStorage (Storage.indexEvent eventId config)

end Lookout.Service
