import Lookout.Json.Value
import Lookout.Text.Blank
import Lookout.Text.Quoted

/-! The lists of detection ids that are stored with events. A list is written as a JSON array. Older texts
    hold the ids separated by commas; what is no JSON array is read as such a text. -/

namespace Lookout.IdList

/-- An element that is no id, and the list that holds it. -/
structure Error where
  raw : List Char
  element : List Char
  deriving Repr, DecidableEq

/-- The text of an error. -/
def Error.message (e : Error) : List Char :=
  "Invalid detection id ".toList ++ Text.quoted e.element ++ " in detection list ".toList ++ Text.quoted e.raw
    ++ ['.']

/-- The text of a list of ids. -/
def text (ids : List Int64) : List Char := (Json.Value.array (ids.map .ofInt64)).compact

/-- The id that a number stands for: the integer itself, or a float without a fraction. -/
def ofNumber? : Json.Number → Option Int64
  | .natural n => Text.int64? n.toNat
  | .negative i => some i
  | .float x => x.toInt?.bind Text.int64?

/-- The id of an item of an array, or the text of the item if it has none. A string is read without the
    blanks around it. -/
def ofItem : Json.Value → Except (List Char) Int64
  | .number n =>
    match ofNumber? n with
    | some id => .ok id
    | none => .error n.text
  | .string s =>
    match Text.readInt64? (Text.trim s) with
    | some id => .ok id
    | none => .error (Text.trim s)
  | v => .error v.compact

/-- The id of a piece between commas, or the piece. -/
def ofPiece (piece : List Char) : Except (List Char) Int64 :=
  match Text.readInt64? piece with
  | some id => .ok id
  | none => .error piece

/-- The elements of a list, each read on its own. -/
def elements (raw : List Char) : List (Except (List Char) Int64) :=
  let trimmed := Text.trim raw
  if trimmed.isEmpty then []
  else
    match Json.Value.ofText? trimmed with
    | some (.array items) => items.map ofItem
    | _ => (((Text.cut (· == ',') trimmed).map Text.trim).filter (!·.isEmpty)).map ofPiece

/-- The ids of a stored text: those of all its elements, or an error about the first that has none. -/
def ofText (raw : List Char) : Except Error (List Int64) :=
  ((elements raw).mapM id).mapError fun element => ⟨raw, element⟩

/-- The ids of a stored value, which may be absent. -/
def ofStored : Option (List Char) → Except Error (List Int64)
  | none => .ok []
  | some raw => ofText raw

end Lookout.IdList
