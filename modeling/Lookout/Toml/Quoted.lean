import Lookout.Text.Digits

/-! TOML strings and keys in quotes. In double quotes a backslash escapes; in single quotes every character
    stands for itself. In three quotes a text may have several lines, and keeps their ends as they are. -/

namespace Lookout.Toml

/-- A character that may stand in a comment or a string on one line. -/
def isPlain (c : Char) : Bool := c == '\t' || (0x20 ≤ c.toNat && c.toNat != 0x7F)

/-- The character of a code in hexadecimal digits. -/
def codeChar? (ds : List Char) : Option Char := do
  let n ← Text.ofDigits? 16 ds
  if n < 0xD800 ∨ (0xE000 ≤ n ∧ n < 0x110000) then some (Char.ofNat n) else none

/-- The character of an escape of one letter. -/
def escaped? : Char → Option Char
  | 'b' => some '\x08'
  | 't' => some '\t'
  | 'n' => some '\n'
  | 'f' => some '\x0c'
  | 'r' => some '\r'
  | 'e' => some '\x1b'
  | '"' => some '"'
  | '\\' => some '\\'
  | _ => none

/-- A text with one more character in front. -/
def consTo (c : Char) (found : List Char × List Char) : List Char × List Char := (c :: found.1, found.2)

/-- A text in double quotes behind the first of them, and the rest. -/
def basic? : List Char → Option (List Char × List Char)
  | [] => none
  | '"' :: r => some ([], r)
  | '\\' :: 'x' :: a :: b :: r => do (← basic? r) |> consTo (← codeChar? [a, b])
  | '\\' :: 'u' :: a :: b :: c :: d :: r => do (← basic? r) |> consTo (← codeChar? [a, b, c, d])
  | '\\' :: 'U' :: a :: b :: c :: d :: e :: f :: g :: h :: r => do
    (← basic? r) |> consTo (← codeChar? [a, b, c, d, e, f, g, h])
  | '\\' :: e :: r => do (← basic? r) |> consTo (← escaped? e)
  | c :: r => if isPlain c && c != '\\' then (basic? r).map (consTo c) else none

/-- A text in single quotes behind the first of them, and the rest. -/
def literal? : List Char → Option (List Char × List Char)
  | [] => none
  | '\'' :: r => some ([], r)
  | c :: r => if isPlain c then (literal? r).map (consTo c) else none

/-- The rest of the line is blank, and another line follows. -/
def endsLine : List Char → Bool
  | ' ' :: r => endsLine r
  | '\t' :: r => endsLine r
  | '\n' :: _ => true
  | '\r' :: '\n' :: _ => true
  | _ => false

/-- A text in three double quotes behind the first of them, and the rest. Two of the closing quotes may
    belong to the text. A backslash at the end of a line hides all blanks up to the next character; while
    `hiding`, they are passed over. -/
def basicLines? : Bool → List Char → Option (List Char × List Char)
  | _, [] => none
  | true, ' ' :: r => basicLines? true r
  | true, '\t' :: r => basicLines? true r
  | true, '\n' :: r => basicLines? true r
  | true, '\r' :: '\n' :: r => basicLines? true r
  | _, '"' :: '"' :: '"' :: '"' :: '"' :: r => some (['"', '"'], r)
  | _, '"' :: '"' :: '"' :: '"' :: r => some (['"'], r)
  | _, '"' :: '"' :: '"' :: r => some ([], r)
  | _, '\n' :: r => (basicLines? false r).map (consTo '\n')
  | _, '\r' :: '\n' :: r => (basicLines? false r).map (consTo '\r' ∘ consTo '\n')
  | _, '\\' :: 'x' :: a :: b :: r => do (← basicLines? false r) |> consTo (← codeChar? [a, b])
  | _, '\\' :: 'u' :: a :: b :: c :: d :: r => do (← basicLines? false r) |> consTo (← codeChar? [a, b, c, d])
  | _, '\\' :: 'U' :: a :: b :: c :: d :: e :: f :: g :: h :: r => do
    (← basicLines? false r) |> consTo (← codeChar? [a, b, c, d, e, f, g, h])
  | _, '\\' :: e :: r =>
    if endsLine (e :: r) then basicLines? true r
    else do (← basicLines? false r) |> consTo (← escaped? e)
  | _, c :: r => if isPlain c && c != '\\' then (basicLines? false r).map (consTo c) else none

/-- A text in three single quotes behind the first of them, and the rest. Two of the closing quotes may
    belong to the text. -/
def literalLines? : List Char → Option (List Char × List Char)
  | [] => none
  | '\'' :: '\'' :: '\'' :: '\'' :: '\'' :: r => some (['\'', '\''], r)
  | '\'' :: '\'' :: '\'' :: '\'' :: r => some (['\''], r)
  | '\'' :: '\'' :: '\'' :: r => some ([], r)
  | '\n' :: r => (literalLines? r).map (consTo '\n')
  | '\r' :: '\n' :: r => (literalLines? r).map (consTo '\r' ∘ consTo '\n')
  | c :: r => if isPlain c then (literalLines? r).map (consTo c) else none

/-- The text without a line end at its start. -/
def dropLineEnd : List Char → List Char
  | '\n' :: r => r
  | '\r' :: '\n' :: r => r
  | r => r

/-- A string at the start of a text, and the rest. -/
def string? : List Char → Option (List Char × List Char)
  | '"' :: '"' :: '"' :: r => basicLines? false (dropLineEnd r)
  | '\'' :: '\'' :: '\'' :: r => literalLines? (dropLineEnd r)
  | '"' :: r => basic? r
  | '\'' :: r => literal? r
  | _ => none

end Lookout.Toml
