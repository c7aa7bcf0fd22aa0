import Lookout.Json.Number

/-! The tree of a JSON text. It keeps what is written: numerals of any size, escapes of single
    surrogates, and repeated keys. What a reader makes of these is decided later, so text that nothing
    reads has to be well formed only. -/

namespace Lookout.Json

/-- A part of a string: a character, or the escape of one half of a surrogate pair. -/
inductive StringPart where
  | char (c : Char)
  | half (code : Nat)
  deriving Repr, DecidableEq

/-- The part that a code of four hexadecimal digits stands for. -/
def StringPart.ofCode (n : Nat) : StringPart :=
  if 0xD800 ≤ n ∧ n < 0xE000 then .half n else .char (Char.ofNat n)

/-- The text of a string, none if a half stands alone. -/
def stringText? : List StringPart → Option (List Char)
  | [] => some []
  | .char c :: rest => (stringText? rest).map (c :: ·)
  | .half high :: .half low :: rest =>
    if high < 0xDC00 ∧ 0xDC00 ≤ low then
      (stringText? rest).map (Char.ofNat (0x10000 + (high - 0xD800) * 0x400 + (low - 0xDC00)) :: ·)
    else none
  | .half _ :: _ => none

/-- A well-formed JSON text, as it is written. -/
inductive Tree where
  | null
  | bool (b : Bool)
  | number (n : Numeral)
  | string (s : List StringPart)
  | array (items : List Tree)
  | object (fields : List (List StringPart × Tree))
  deriving Repr

/-! ### Reading a text -/

/-- The characters that may stand between the parts of a text. -/
def isSpace (c : Char) : Bool := c == ' ' || c == '\t' || c == '\n' || c == '\r'

def skipSpace (s : List Char) : List Char := s.dropWhile isSpace

/-- The code of four hexadecimal digits. -/
def code? (a b c d : Char) : Option Nat := Text.ofDigits? 16 [a, b, c, d]

/-- The rest of a string behind its opening quote, and what follows the closing one. -/
def string? : List Char → Option (List StringPart × List Char)
  | [] => none
  | '"' :: r => some ([], r)
  | '\\' :: 'u' :: a :: b :: c :: d :: r => do
    let n ← code? a b c d
    let (parts, r) ← string? r
    some (.ofCode n :: parts, r)
  | '\\' :: e :: r => do
    let c ← match e with
      | '"' => some '"'
      | '\\' => some '\\'
      | '/' => some '/'
      | 'b' => some '\x08'
      | 'f' => some '\x0c'
      | 'n' => some '\n'
      | 'r' => some '\r'
      | 't' => some '\t'
      | _ => none
    let (parts, r) ← string? r
    some (.char c :: parts, r)
  | c :: r =>
    if c.toNat < 0x20 || c == '\\' then none
    else (string? r).map fun (parts, r) => (.char c :: parts, r)

/-- The digits at the start of a text, and the rest. -/
def digits (s : List Char) : List Char × List Char := (s.takeWhile Char.isDigit, s.dropWhile Char.isDigit)

/-- The fraction of a numeral, if a point follows. -/
def fraction? : List Char → Option (List Char × List Char)
  | '.' :: r =>
    match digits r with
    | ([], _) => none
    | found => some found
  | r => some ([], r)

/-- The digits of an exponent behind its mark and sign. -/
def exponentDigits? (negative : Bool) (r : List Char) : Option (Option (Bool × List Char) × List Char) :=
  match digits r with
  | ([], _) => none
  | (ds, r) => some (some (negative, ds), r)

/-- The exponent of a numeral, if a mark follows. -/
def exponent? : List Char → Option (Option (Bool × List Char) × List Char)
  | c :: r =>
    if c == 'e' || c == 'E' then
      match r with
      | '-' :: r => exponentDigits? true r
      | '+' :: r => exponentDigits? false r
      | r => exponentDigits? false r
    else some (none, c :: r)
  | [] => some (none, [])

/-- A numeral without its sign. A zero before the point is not followed by digits. -/
def unsigned? (negative : Bool) (s : List Char) : Option (Numeral × List Char) := do
  let (whole, r) ← match s with
    | '0' :: r => some (['0'], r)
    | r =>
      match digits r with
      | ([], _) => none
      | found => some found
  let (fraction, r) ← fraction? r
  let (exponent, r) ← exponent? r
  some (⟨negative, whole, fraction, exponent⟩, r)

/-- A numeral at the start of a text. -/
def numeral? : List Char → Option (Numeral × List Char)
  | '-' :: r => unsigned? true r
  | r => unsigned? false r

mutual

/-- One value at the start of a text, behind any space, and what follows it. The number bounds the depth
    and the breadth of what is read. -/
def value? : Nat → List Char → Option (Tree × List Char)
  | 0, _ => none
  | n + 1, s =>
    match skipSpace s with
    | 'n' :: 'u' :: 'l' :: 'l' :: r => some (.null, r)
    | 't' :: 'r' :: 'u' :: 'e' :: r => some (.bool true, r)
    | 'f' :: 'a' :: 'l' :: 's' :: 'e' :: r => some (.bool false, r)
    | '"' :: r => (string? r).map fun (parts, r) => (.string parts, r)
    | '[' :: r =>
      match skipSpace r with
      | ']' :: r => some (.array [], r)
      | r => (items? n r).map fun (items, r) => (.array items, r)
    | '{' :: r =>
      match skipSpace r with
      | '}' :: r => some (.object [], r)
      | r => (fields? n r).map fun (fields, r) => (.object fields, r)
    | r => (numeral? r).map fun (numeral, r) => (.number numeral, r)

/-- The items of an array, at least one, up to its closing bracket. -/
def items? : Nat → List Char → Option (List Tree × List Char)
  | 0, _ => none
  | n + 1, s => do
    let (item, r) ← value? n s
    match skipSpace r with
    | ']' :: r => some ([item], r)
    | ',' :: r => (items? n r).map fun (items, r) => (item :: items, r)
    | _ => none

/-- The fields of an object, at least one, up to its closing brace. -/
def fields? : Nat → List Char → Option (List (List StringPart × Tree) × List Char)
  | 0, _ => none
  | n + 1, s => do
    let .cons '"' r := skipSpace s | none
    let (key, r) ← string? r
    let .cons ':' r := skipSpace r | none
    let (item, r) ← value? n r
    match skipSpace r with
    | '}' :: r => some ([(key, item)], r)
    | ',' :: r => (fields? n r).map fun (fields, r) => ((key, item) :: fields, r)
    | _ => none

end

/-- The tree of a whole text. -/
def Tree.ofText? (s : List Char) : Option Tree := do
  let (tree, r) ← value? (2 * s.length + 2) s
  if (skipSpace r).isEmpty then some tree else none

end Lookout.Json
