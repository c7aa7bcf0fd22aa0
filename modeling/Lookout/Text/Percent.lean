import Lookout.Text.Digits

/-! Percent-encoded text: a percent sign with two hexadecimal digits stands for a byte, and any other
    character for the bytes of its UTF-8 form. -/

namespace Lookout.Text

/-- The byte that two hexadecimal digits stand for. -/
def byte? (a b : Char) : Option UInt8 := do
  let high ← hexDigit? a
  let low ← hexDigit? b
  some (UInt8.ofNat (16 * high + low))

/-- The bytes that a text stands for. A percent sign without its two digits stands for itself. -/
def percentBytes : List Char → List UInt8
  | '%' :: a :: b :: s =>
    match byte? a b with
    | some n => n :: percentBytes s
    | none => String.utf8EncodeChar '%' ++ percentBytes (a :: b :: s)
  | c :: s => String.utf8EncodeChar c ++ percentBytes s
  | [] => []

/-- The text that the bytes are the UTF-8 form of. -/
def ofUtf8? (bytes : List UInt8) : Option (List Char) :=
  (String.fromUTF8? ⟨bytes.toArray⟩).map String.toList

/-- The text that a percent-encoded text stands for, none if its bytes are not the form of a text. -/
def percentDecoded? (s : List Char) : Option (List Char) := ofUtf8? (percentBytes s)

end Lookout.Text
