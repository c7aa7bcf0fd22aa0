import Lookout.Like
import Lookout.Query.Predicate
import Lookout.Text.Blank

/-! The text side of a search: what the text index is given, and the pattern for events that have no place in
    it yet. A query without terms has no text side. -/

namespace Lookout

/-- How the text of events is matched. -/
structure TextMatch where
  mode : Query.MatchMode
  /-- The predicate, or the query as it was written, as the mode says. -/
  indexQuery : String
  /-- The pattern of the texts that contain the query, without the blanks at its ends. -/
  fallbackPattern : String
  deriving Repr, DecidableEq

namespace TextMatch

/-- The text side of a predicate, whose query was `raw`. -/
def ofPredicate? (p : Query.Predicate) (raw : String) : Option TextMatch :=
  if p.isEmpty then none
  else
    let indexQuery := match p.mode with
      | .explicitBoolean => String.ofList p.text
      | .implicitText => raw
    some ⟨p.mode, indexQuery, String.ofList (Like.containing (Text.trim raw.toList))⟩

end TextMatch
end Lookout
