import Lookout.Text.Blank

/-! Texts by their lines. A line ends with a line feed, before which a carriage return may stand; the last line may
    lack its end. -/

namespace Lookout.Text

/-- A line without the carriage return at its end. -/
def dropReturn (line : List Char) : List Char := if line.getLast? = some '\r' then line.dropLast else line

/-- The lines of a text, without their ends. -/
def lines (s : List Char) : List (List Char) :=
  let pieces := cut (· == '\n') s
  pieces.dropLast.map dropReturn ++ (pieces.getLast?.filter (!·.isEmpty)).toList

end Lookout.Text
