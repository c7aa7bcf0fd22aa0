import Lookout.IdList
import Lookout.Storage.Error

/-! Why a request to the service fails. -/

namespace Lookout.Service

inductive Error where
  | emptyBatch
  | cameraNotFound (id : String)
  | eventNotFound (id : Int64)
  | badIdList (e : IdList.Error)
  | sql (e : Sql.Failure)
  | negativeCount (n : Int64)
  /-- A date of the filters lies behind the calendar, so it cannot be sent. -/
  | dateBeyondCalendar
  deriving Repr, DecidableEq

/-- What kind of failure an error is. -/
inductive ErrorKind where
  | invalidRequest
  | notFound
  | decode
  | storage
  deriving Repr, DecidableEq

/-- What the text of an error begins with. -/
def ErrorKind.label : ErrorKind → String
  | .invalidRequest => "Invalid request: "
  | .notFound => "Not found: "
  | .decode => "Decode error: "
  | .storage => "Storage error: "

namespace Error

def kind : Error → ErrorKind
  | .emptyBatch => .invalidRequest
  | .dateBeyondCalendar => .invalidRequest
  | .cameraNotFound _ => .notFound
  | .eventNotFound _ => .notFound
  | .badIdList _ => .decode
  | .sql _ => .storage
  | .negativeCount _ => .storage

/-- What is wrong. -/
def detail : Error → String
  | .emptyBatch => Storage.emptyBatchDetail
  | .dateBeyondCalendar => "date beyond the year 9999."
  | .cameraNotFound id => Storage.cameraDetail id
  | .eventNotFound id => Storage.eventDetail id
  | .badIdList e => String.ofList e.message
  | .sql e => e.message
  | .negativeCount n => "Negative event count " ++ String.ofList (Text.signedDecimal n.toInt) ++ "."

/-- The text of an error. -/
def message (e : Error) : String := e.kind.label ++ e.detail

/-- The error of a request that an operation on the stored events fails. -/
def ofStorage : Storage.Error → Error
  | .sql e => .sql e
  | .emptyBatch => .emptyBatch
  | .cameraNotFound id => .cameraNotFound id
  | .eventNotFound id => .eventNotFound id

end Error
end Lookout.Service
