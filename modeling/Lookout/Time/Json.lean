import Lookout.Json.Record
import Lookout.Time.Rfc3339

/-! Instants in JSON texts: strings that hold RFC 3339 text. -/

namespace Lookout.Time.Instant

def ofJson? (t : Json.Tree) : Option Instant :=
  t.text?.bind fun s => (Rfc3339.parse? s.toList).map Timestamp.instant

def toJson (t : Instant) : Except WriteError Json.Value := (Rfc3339.text t).map .string

/-- An instant that may be absent, as null if it is. -/
def optionToJson : Option Instant → Except WriteError Json.Value
  | none => .ok .null
  | some t => t.toJson

end Lookout.Time.Instant
