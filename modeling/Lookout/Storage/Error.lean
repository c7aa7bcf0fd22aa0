import Lookout.Sql.Reply
import Lookout.Text.Digits

/-! Why an operation on the stored events fails. -/

namespace Lookout.Storage

inductive Error where
  | sql (e : Sql.Failure)
  /-- Batches have to hold something. -/
  | emptyBatch
  | cameraNotFound (id : String)
  | eventNotFound (id : Int64)
  deriving Repr, DecidableEq

/-- What is wrong with an empty batch. -/
def emptyBatchDetail : String := "batch_size must be greater than zero."

/-- A camera in a message. -/
def cameraDetail (id : String) : String := "camera " ++ id

/-- An event in a message. -/
def eventDetail (id : Int64) : String := "event " ++ String.ofList (Text.signedDecimal id.toInt)

/-- The text of an error. -/
def Error.message : Error → String
  | .sql e => e.message
  | .emptyBatch => "Invalid argument: " ++ emptyBatchDetail
  | .cameraNotFound id => "Not found: " ++ cameraDetail id
  | .eventNotFound id => "Not found: " ++ eventDetail id

end Lookout.Storage
