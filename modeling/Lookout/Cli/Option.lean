import Lookout.Filters.Basic
import Lookout.Text.Digits
import Lookout.Time.Rfc3339

/-! The options of the command line, and the values that they take. -/

namespace Lookout.Cli

/-- An option. Each takes one value. -/
inductive Opt where
  | config
  | query
  | camera
  | severity
  | objectType
  | reviewed
  | start
  | finish
  | limit
  | offset
  | batch
  deriving Repr, DecidableEq

/-- Why nothing is done for the arguments. -/
inductive Refusal where
  /-- They ask for help. -/
  | help
  /-- They ask for the version. -/
  | version
  /-- There are none. -/
  | nothingGiven
  | missingCommand
  | unknownCommand (word : List Char)
  | unknownWord (word : List Char)
  | missingValue (o : Opt)
  /-- The option takes only certain values, and this is none. -/
  | unsuitableValue (o : Opt) (value : List Char)
  /-- The value is no number, too large a number, or no timestamp. -/
  | unreadableValue (o : Opt) (value : List Char)
  | repeated (o : Opt)
  /-- A value stands at an option that takes none. -/
  | needlessValue (name value : List Char)
  deriving Repr, DecidableEq

/-- An option with its value. -/
inductive Given where
  | config (path : String)
  | query (text : String)
  | camera (id : String)
  | severity (level : String)
  | objectType (name : String)
  | reviewed (b : Bool)
  | start (t : Time.Instant)
  | finish (t : Time.Instant)
  | limit (n : UInt32)
  | offset (n : UInt32)
  | batch (n : UInt32)
  deriving Repr, DecidableEq

/-- The option of a value. -/
def Given.opt : Given → Opt
  | .config _ => .config
  | .query _ => .query
  | .camera _ => .camera
  | .severity _ => .severity
  | .objectType _ => .objectType
  | .reviewed _ => .reviewed
  | .start _ => .start
  | .finish _ => .finish
  | .limit _ => .limit
  | .offset _ => .offset
  | .batch _ => .batch

namespace Opt

/-- The name of an option after two hyphens. -/
def name : Opt → String
  | .config => "config"
  | .query => "query"
  | .camera => "camera"
  | .severity => "severity"
  | .objectType => "object-type"
  | .reviewed => "reviewed"
  | .start => "start"
  | .finish => "end"
  | .limit => "limit"
  | .offset => "offset"
  | .batch => "batch"

/-- The letter of an option after one hyphen. -/
def letter? : Opt → Option Char
  | .config => some 'c'
  | .query => some 'q'
  | _ => none

/-- The option may come more than once, and then all its values count. -/
def isRepeatable : Opt → Bool
  | .camera => true
  | .severity => true
  | .objectType => true
  | _ => false

/-! ### Values -/

/-- The number that a value writes, signed or not. -/
def uint32? (v : List Char) : Option UInt32 := do
  let n ← Text.readInt64? v
  if 0 ≤ n ∧ n ≤ 4294967295 then some n.toUInt64.toUInt32 else none

/-- The instant that a value writes. -/
def instant? (v : List Char) : Option Time.Instant := (Time.Rfc3339.parse? v).map (·.instant)

/-- `true` or `false`. -/
def bool? (v : List Char) : Option Bool :=
  if v = ['t', 'r', 'u', 'e'] then some true
  else if v = ['f', 'a', 'l', 's', 'e'] then some false
  else none

/-- The path that a value writes. It may not be empty. -/
def path? (v : List Char) : Option String := if v.isEmpty then none else some (String.ofList v)

/-- The reading of a value. -/
def read (o : Opt) (v : List Char) : Except Refusal Given :=
  let suitable {α : Type} (f : α → Given) (a : Option α) : Except Refusal Given :=
    (a.map (.ok <| f ·)).getD (.error (.unsuitableValue o v))
  let readable {α : Type} (f : α → Given) (a : Option α) : Except Refusal Given :=
    (a.map (.ok <| f ·)).getD (.error (.unreadableValue o v))
  match o with
  | .config => suitable .config (path? v)
  | .query => .ok (.query (String.ofList v))
  | .camera => .ok (.camera (String.ofList v))
  | .severity => .ok (.severity (String.ofList v))
  | .objectType => .ok (.objectType (String.ofList v))
  | .reviewed => suitable .reviewed (bool? v)
  | .start => readable .start (instant? v)
  | .finish => readable .finish (instant? v)
  | .limit => readable .limit (uint32? v)
  | .offset => readable .offset (uint32? v)
  | .batch => readable .batch (uint32? v)

end Opt
end Lookout.Cli
