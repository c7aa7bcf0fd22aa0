import Lookout.Toml.Value

/-! Records in TOML documents. A record is a table with its fields by name, or an array of its fields in order.
    Entries of other names are skipped; further items are not even looked at. A date or a time is taken for a
    record of which no field is given. -/

namespace Lookout.Toml.Value

/-- The entries of other names hold no number that no reader can take. -/
def othersSound (names : List Key) (es : Entries) : Bool := es.all fun (k, v) => names.contains k || v.isSound

/-- What is given for each of the fields of a table. -/
def select? (names : List String) (es : Entries) : Option (List (Option Value)) :=
  let keys := names.map String.toList
  if othersSound keys es then some (keys.map fun k => es.lookup k) else none

/-- What is given for each of the fields of a record. -/
def record? (names : List String) : Value → Option (List (Option Value))
  | .table _ es => select? names es
  | .array items => some ((List.range names.length).map fun i => items[i]?)
  | .tables items => some ((List.range names.length).map fun i => items[i]?.map (.table .header))
  | .datetime _ => some (names.map fun _ => none)
  | _ => none

def text? : Value → Option String
  | .string s => some (String.ofList s)
  | _ => none

def uint32? : Value → Option UInt32
  | .integer i => if 0 ≤ i ∧ i < 4294967296 then some (UInt32.ofNat i.toNat) else none
  | _ => none

/-- A float. An integer of 64 bits is taken too. -/
def binary64? : Value → Option Binary64
  | .float x => some x
  | .integer i => if -9223372036854775808 ≤ i ∧ i < 18446744073709551616 then some (.ofInt i) else none
  | _ => none

/-- A field that has a value if it is left out. -/
def orElse? {α : Type} (value : α) (read : Value → Option α) : Option Value → Option α
  | none => some value
  | some v => read v

end Lookout.Toml.Value
