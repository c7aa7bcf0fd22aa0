import Lookout.Text.Digits
import Lookout.Text.Unprintable

/-! Texts in double quotes, for messages. A quote and a backslash are escaped by a backslash, as are the
    four control characters that have a letter of their own; every other character that does not show is
    written by its code point. -/

namespace Lookout.Text

/-- A character between the quotes. -/
def quoteChar (c : Char) : List Char :=
  match c with
  | '\x00' => ['\\', '0']
  | '\t' => ['\\', 't']
  | '\r' => ['\\', 'r']
  | '\n' => ['\\', 'n']
  | '"' => ['\\', '"']
  | '\\' => ['\\', '\\']
  | c => if isUnprintable c then ['\\', 'u', '{'] ++ hexadecimal c.toNat ++ ['}'] else [c]

/-- The text in double quotes. -/
def quoted (s : List Char) : List Char := '"' :: s.flatMap quoteChar ++ ['"']

end Lookout.Text
