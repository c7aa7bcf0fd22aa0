import Lookout.Text.Blank

/-! The outline of a query: its words in order, with every closed quotation taken out and replaced by a
    slot. The slot is a private-use character that is dropped from the query first, so no text of a query
    can stand for one. -/

namespace Lookout.Query

/-- The character that marks the place of a quotation. -/
def slotChar : Char := '\uE000'

/-- The word that marks the place of a quotation. -/
def slot : List Char := [slotChar]

/-- The words of a query and the contents of its closed quotations, both in order. Outlines that a query
    gives have one slot for each quotation; every function on outlines takes any two lists. -/
structure Outline where
  words : List (List Char)
  phrases : List (List Char)
  deriving Repr, DecidableEq

/-- The outline of a text, given as its pieces between the double quotes. Every second piece is a
    quotation; a last quote without a partner is an ordinary character. -/
def Outline.ofPieces : List (List Char) → Outline
  | [] => ⟨[], []⟩
  | [p] => ⟨Text.words p, []⟩
  | [p, q] => ⟨Text.words (p ++ '"' :: q), []⟩
  | p :: q :: rest =>
    let tail := ofPieces rest
    ⟨Text.words p ++ slot :: tail.words, q :: tail.phrases⟩

/-- The outline of a query. -/
def Outline.ofQuery (raw : List Char) : Outline :=
  .ofPieces (Text.cut (· == '"') (raw.filter (· != slotChar)))

end Lookout.Query
