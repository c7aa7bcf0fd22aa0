import Lookout.Json.Tree

/-! JSON values, and their texts. Compact text has no space at all; pretty text puts every item and field
    on a line of its own, indented by two spaces for each level. -/

namespace Lookout.Json

/-- A JSON value. An object's fields have the order in which they are written. -/
inductive Value where
  | null
  | bool (b : Bool)
  | number (n : Number)
  | string (s : List Char)
  | array (items : List Value)
  | object (fields : List (List Char × Value))
  deriving Repr

namespace Value

/-- A text as a value. -/
def ofString (s : String) : Value := .string s.toList

/-- An integer as a value. -/
def ofInt64 (i : Int64) : Value := .number (.ofInt64 i)

def ofUInt64 (n : UInt64) : Value := .number (.natural n)

/-- A value that may be absent, as null if it is. -/
def ofOption {α : Type} (f : α → Value) : Option α → Value
  | none => .null
  | some a => f a

/-- An object with these fields. -/
def ofFields (fields : List (String × Value)) : Value := .object (fields.map fun (k, v) => (k.toList, v))

end Value

/-! ### The value of a tree -/

/-- The fields with one more, in the order of the keys; a field of the same key is replaced. -/
def putField (key : List Char) (v : Value) : List (List Char × Value) → List (List Char × Value)
  | [] => [(key, v)]
  | (k, w) :: rest =>
    if key < k then (key, v) :: (k, w) :: rest
    else if key = k then (key, v) :: rest
    else (k, w) :: putField key v rest

/-- The key of an object that stands for the value of the text under it. -/
def textKey : List Char := "$serde_json::private::RawValue".toList

/-- The one string of an object, if it is an object that stands for a text. A key that is not the first, or
    that is followed by others, leaves no string to read. -/
def embeddedText? : List (List StringPart × Tree) → Option (List Char)
  | [(_, .string s)] => stringText? s
  | _ => none

mutual

/-- The value of a tree that nests at most `depth` arrays and objects. None has a single surrogate or a
    number that is too large. The fields of an object are ordered by key, and the last of one key holds. An
    object whose first key is `textKey` has the value that `ofText?` finds in its string. -/
def Tree.toValue? (ofText? : List Char → Option Value) (depth : Nat) : Tree → Option Value
  | .null => some .null
  | .bool b => some (.bool b)
  | .number n => n.number?.map .number
  | .string s => (stringText? s).map .string
  | .array items =>
    match depth with
    | 0 => none
    | d + 1 => (Tree.toValues? ofText? d items).map .array
  | .object fields =>
    match depth with
    | 0 => none
    | d + 1 =>
      if fields.head?.any (fun field => stringText? field.1 == some textKey) then
        (embeddedText? fields).bind ofText?
      else (Tree.toFields? ofText? d [] fields).map .object

/-- The values of the items of an array. -/
def Tree.toValues? (ofText? : List Char → Option Value) (depth : Nat) : List Tree → Option (List Value)
  | [] => some []
  | t :: ts => do
    let v ← Tree.toValue? ofText? depth t
    let vs ← Tree.toValues? ofText? depth ts
    some (v :: vs)

/-- The fields put into `done` one by one. -/
def Tree.toFields? (ofText? : List Char → Option Value) (depth : Nat) (done : List (List Char × Value)) :
    List (List StringPart × Tree) → Option (List (List Char × Value))
  | [] => some done
  | (key, t) :: rest => do
    let key ← stringText? key
    let v ← Tree.toValue? ofText? depth t
    Tree.toFields? ofText? depth (putField key v done) rest

end

/-- The value of a text that holds fewer than `n` further texts inside one another; none if a text is not
    well formed or nests more than 127 arrays and objects. -/
def Value.ofTextWithin? : Nat → List Char → Option Value
  | 0, _ => none
  | n + 1, s => (Tree.ofText? s).bind (Tree.toValue? (Value.ofTextWithin? n) 127)

/-- The value of a text. A text inside another is shorter by its quotes at least, so the length bounds how
    many there are. -/
def Value.ofText? (s : List Char) : Option Value := Value.ofTextWithin? (s.length + 1) s

/-! ### Writing -/

/-- A character inside a string: quotes, backslashes and control characters are escaped. -/
def escapeChar (c : Char) : List Char :=
  match c with
  | '"' => ['\\', '"']
  | '\\' => ['\\', '\\']
  | '\x08' => ['\\', 'b']
  | '\t' => ['\\', 't']
  | '\n' => ['\\', 'n']
  | '\x0c' => ['\\', 'f']
  | '\r' => ['\\', 'r']
  | c => if c.toNat < 0x20 then '\\' :: 'u' :: Text.padLeft 4 (Text.hexadecimal c.toNat) else [c]

/-- A string with its quotes. -/
def stringText (s : List Char) : List Char := '"' :: s.flatMap escapeChar ++ ['"']

mutual

/-- The text of a value without space. -/
def Value.compact : Value → List Char
  | .null => ['n', 'u', 'l', 'l']
  | .bool true => ['t', 'r', 'u', 'e']
  | .bool false => ['f', 'a', 'l', 's', 'e']
  | .number n => n.text
  | .string s => stringText s
  | .array [] => ['[', ']']
  | .array (v :: vs) => '[' :: Value.compact v ++ Value.compactItems vs
  | .object [] => ['{', '}']
  | .object ((k, v) :: rest) => '{' :: stringText k ++ ':' :: Value.compact v ++ Value.compactFields rest

/-- The further items of an array, up to its closing bracket. -/
def Value.compactItems : List Value → List Char
  | [] => [']']
  | v :: vs => ',' :: Value.compact v ++ Value.compactItems vs

/-- The further fields of an object, up to its closing brace. -/
def Value.compactFields : List (List Char × Value) → List Char
  | [] => ['}']
  | (k, v) :: rest => ',' :: stringText k ++ ':' :: Value.compact v ++ Value.compactFields rest

end

/-- The start of a line at a level. -/
def newLine (level : Nat) : List Char := '\n' :: List.replicate (2 * level) ' '

mutual

/-- The text of a value on lines of its own, `level` levels deep. -/
def Value.prettyAt (level : Nat) : Value → List Char
  | .null => ['n', 'u', 'l', 'l']
  | .bool true => ['t', 'r', 'u', 'e']
  | .bool false => ['f', 'a', 'l', 's', 'e']
  | .number n => n.text
  | .string s => stringText s
  | .array [] => ['[', ']']
  | .array (v :: vs) =>
    '[' :: newLine (level + 1) ++ Value.prettyAt (level + 1) v ++ Value.prettyItems level vs
  | .object [] => ['{', '}']
  | .object ((k, v) :: rest) =>
    '{' :: newLine (level + 1) ++ stringText k ++ ':' :: ' ' :: Value.prettyAt (level + 1) v
      ++ Value.prettyFields level rest

/-- The further items of an array at a level, up to its closing bracket. -/
def Value.prettyItems (level : Nat) : List Value → List Char
  | [] => newLine level ++ [']']
  | v :: vs => ',' :: newLine (level + 1) ++ Value.prettyAt (level + 1) v ++ Value.prettyItems level vs

/-- The further fields of an object at a level, up to its closing brace. -/
def Value.prettyFields (level : Nat) : List (List Char × Value) → List Char
  | [] => newLine level ++ ['}']
  | (k, v) :: rest =>
    ',' :: newLine (level + 1) ++ stringText k ++ ':' :: ' ' :: Value.prettyAt (level + 1) v
      ++ Value.prettyFields level rest

end

/-- The text of a value on lines of its own. -/
def Value.pretty (v : Value) : List Char := v.prettyAt 0

end Lookout.Json
