import Lookout.Json.Record
import Lookout.Query.Predicate

/-! Match modes as JSON: their names, or an object with the name as its only key and the value null. -/

namespace Lookout.Query.MatchMode

def ofJson? : Json.Tree → Option MatchMode
  | .object [(key, .null)] => (Json.stringText? key).bind fun k => ofName? (String.ofList k)
  | t => t.text?.bind ofName?

/-- The mode of a JSON text. -/
def ofText? (s : List Char) : Option MatchMode := (Json.Tree.ofText? s).bind ofJson?

def toJson (m : MatchMode) : Json.Value := .ofString m.name

end Lookout.Query.MatchMode
