import Lookout.Json.Value

/-! Records in JSON texts. A record is an object with its fields by name, or an array of its fields in
    order. Fields of other names are skipped; one of its own may not come twice. -/

namespace Lookout.Json.Tree

/-- The fields of an object by the text of their keys, none if a key has none. -/
def keyed? (fields : List (List StringPart × Tree)) : Option (List (List Char × Tree)) :=
  fields.mapM fun (key, t) => (stringText? key).map fun k => (k, t)

/-- The fields of these names, each one's first; none if one comes twice. -/
def select? (names : List String) (fields : List (List Char × Tree)) : Option (List (Option Tree)) :=
  if names.all fun name => (fields.filter fun f => f.1 == name.toList).length ≤ 1 then
    some (names.map fun name => fields.lookup name.toList)
  else none

/-- What is given for each of a record's fields. An array may have fewer items than there are fields unless
    it has to be complete. -/
def record? (names : List String) (complete : Bool) : Tree → Option (List (Option Tree))
  | .object fields => (keyed? fields).bind (select? names)
  | .array items =>
    if items.length ≤ names.length && (!complete || items.length == names.length) then
      some (items.map some ++ List.replicate (names.length - items.length) none)
    else none
  | _ => none

/-! ### Fields -/

def bool? : Tree → Option Bool
  | .bool b => some b
  | _ => none

def text? : Tree → Option String
  | .string s => (stringText? s).map String.ofList
  | _ => none

/-- The items of an array, each read. -/
def list? {α : Type} (item : Tree → Option α) : Tree → Option (List α)
  | .array items => items.mapM item
  | _ => none

def number? : Tree → Option Number
  | .number n => n.number?
  | _ => none

/-- An integer that lies in a range. -/
def integer? (low high : Int) (t : Tree) : Option Int := do
  let n ← t.number?
  let i ← n.toInt?
  if low ≤ i ∧ i ≤ high then some i else none

def int64? (t : Tree) : Option Int64 := (t.number?.bind Number.toInt?).bind Text.int64?

def int32? (t : Tree) : Option Int32 := (t.integer? (-2147483648) 2147483647).map Int32.ofInt

def uint32? (t : Tree) : Option UInt32 := (t.integer? 0 4294967295).map fun i => UInt32.ofNat i.toNat

def uint64? (t : Tree) : Option UInt64 :=
  (t.integer? 0 18446744073709551615).map fun i => UInt64.ofNat i.toNat

def binary64? (t : Tree) : Option Binary64 := t.number?.map Number.toBinary64

/-- A value that may be null. -/
def nullable? {α : Type} (read : Tree → Option α) : Tree → Option (Option α)
  | .null => some none
  | t => (read t).map some

/-- A field that has to be given. -/
def required? {α : Type} (read : Tree → Option α) (field : Option Tree) : Option α := field.bind read

/-- A field that may be left out or null. -/
def optional? {α : Type} (read : Tree → Option α) : Option Tree → Option (Option α)
  | none => some none
  | some t => nullable? read t

/-- A field that has a value if it is left out. -/
def orElse? {α : Type} (value : α) (read : Tree → Option α) : Option Tree → Option α
  | none => some value
  | some t => read t

end Lookout.Json.Tree
