import Lookout.Cli.Option
import Lookout.Cli.Word

/-! What the command line asks for: the options of the program, the name of a command, and the options of that
    command. Of several things wrong with it the first is reported. A value is looked at once the next option
    comes, or the end; what is wrong with it is not reported if the program does not know that option. -/

namespace Lookout.Cli

inductive Command where
  | search
  | backfillIndex
  | initSchema
  deriving Repr, DecidableEq

namespace Command

def all : List Command := [.search, .backfillIndex, .initSchema]

def name : Command → String
  | .search => "search"
  | .backfillIndex => "backfill-index"
  | .initSchema => "init-schema"

def ofName? (s : List Char) : Option Command := all.find? (·.name.toList == s)

/-- The options of a command. Each takes the path of the settings beside its own. -/
def options : Command → List Opt
  | .search => [.query, .camera, .severity, .objectType, .reviewed, .start, .finish, .limit, .offset, .config]
  | .backfillIndex => [.batch, .config]
  | .initSchema => [.config]

end Command

/-- A part of the command line: before a command, or within it. -/
abbrev Level := Option Command

/-- What a word that begins with a hyphen stands for. -/
inductive Switch where
  | option (o : Opt)
  | help
  | version
  deriving Repr, DecidableEq

namespace Level

def options : Level → List Opt
  | none => [.config]
  | some c => c.options

/-- The switch of a name. The version can be asked for before a command only. -/
def switchOfName? (level : Level) (name : List Char) : Option Switch :=
  if name = "help".toList then some .help
  else if level.isNone ∧ name = "version".toList then some .version
  else (level.options.find? (·.name.toList == name)).map .option

/-- The switch of a letter. -/
def switchOfLetter? (level : Level) (c : Char) : Option Switch :=
  if c = 'h' then some .help
  else if level.isNone ∧ c = 'V' then some .version
  else (level.options.find? (·.letter? == some c)).map .option

/-- Why a word after a separator is refused. -/
def refuseTrailing (level : Level) (word : List Char) : Refusal :=
  match level with
  | none => if word = "help".toList ∨ (Command.ofName? word).isSome then .unknownWord word else .unknownCommand word
  | some _ => .unknownWord word

end Level

/-! ### Reading one level -/

/-- What was read of a level: the options whose values are accepted, and the last option if its value is not
    accepted yet. -/
structure Progress where
  given : List Given
  pending : Option (Opt × Option (List Char))

namespace Progress

/-- Nothing was read. -/
def start : Progress := ⟨[], none⟩

/-- Accept the value of an option. -/
def accept (given : List Given) (o : Opt) (v : List Char) : Except Refusal (List Given) :=
  if !o.isRepeatable && given.any (·.opt == o) then .error (.repeated o)
  else (o.read v).map fun g => given ++ [g]

/-- Accept what is pending. -/
def settle (p : Progress) : Except Refusal (List Given) :=
  match p.pending with
  | none => .ok p.given
  | some (o, none) => .error (.missingValue o)
  | some (o, some v) => accept p.given o v

/-- Begin with a switch, which may have a value attached. -/
def turn (p : Progress) (switch : Switch) (attached : Option (List Char)) : Except Refusal Progress := do
  let given ← p.settle
  match switch, attached with
  | .help, _ => .error .help
  | .version, _ => .error .version
  | .option o, some v => return ⟨← accept given o v, none⟩
  | .option o, none => return ⟨given, some (o, none)⟩

/-- Take a word that begins with two hyphens. -/
def long (level : Level) (p : Progress) (name : List Char) (value : Option (List Char)) : Except Refusal Progress :=
  match level.switchOfName? name, value with
  | none, _ => .error (.unknownWord name)
  | some (.option o), _ => p.turn (.option o) value
  | some _, some v => .error (.needlessValue name v)
  | some switch, none => p.turn switch none

/-- Take a word that begins with one hyphen. -/
def short (level : Level) (p : Progress) (c : Char) (rest : List Char) : Except Refusal Progress :=
  match level.switchOfLetter? c with
  | none => .error (.unknownWord [c])
  | some switch => p.turn switch (Word.attached? rest)

end Progress

/-- What the command `help` does with the words after it: at most one, which has to be a command. -/
def refuseHelp : List (List Char) → Refusal
  | [] => .help
  | [w] => if w = "help".toList ∨ (Command.ofName? w).isSome then .help else .unknownCommand w
  | w :: u :: _ => if w = "help".toList ∨ (Command.ofName? w).isSome then .unknownCommand u else .unknownCommand w

/-- Read the words of a level up to a command, which is given back with the words after it. -/
def readLevel (level : Level) (p : Progress) :
    List (List Char) → Except Refusal (Progress × Option (Command × List (List Char)))
  | [] => .ok (p, none)
  | w :: rest =>
    match Word.ofText w, p.pending with
    | .separator, _ =>
      match rest with
      | [] => .ok (p, none)
      | u :: _ => .error (level.refuseTrailing u)
    | .long name value, _ => (p.long level name value).bind fun p => readLevel level p rest
    | .short c more, _ => (p.short level c more).bind fun p => readLevel level p rest
    | .plain s, some (o, none) => readLevel level { p with pending := some (o, some s) } rest
    | .plain s, _ =>
      match level with
      | some _ => .error (.unknownWord s)
      | none =>
        if s = "help".toList then .error (refuseHelp rest)
        else
          match Command.ofName? s with
          | some c => .ok (p, some (c, rest))
          | none => .error (.unknownCommand s)

/-! ### The whole command line -/

/-- The options of a search. -/
structure SearchRequest where
  query : String
  cameras : List String
  severities : List String
  objectTypes : List String
  reviewed : Option Bool
  startDate : Option Time.Instant
  endDate : Option Time.Instant
  limit : UInt32
  offset : UInt32
  deriving Repr, DecidableEq

inductive Request where
  | search (r : SearchRequest)
  | backfillIndex (batch : UInt32)
  | initSchema
  deriving Repr, DecidableEq

structure Invocation where
  /-- The path of the settings. -/
  config : String
  request : Request
  deriving Repr, DecidableEq

/-- The filters of a search. -/
def SearchRequest.filters (r : SearchRequest) : Filters where
  startDate := r.startDate
  endDate := r.endDate
  cameraIds := .ofList r.cameras
  severity := .ofList r.severities
  objectTypes := .ofList r.objectTypes
  reviewed := r.reviewed

/-- The path of the settings that is given, if one is. -/
def config? (given : List Given) : Option String := given.findSome? fun | .config s => some s | _ => none

/-- The request for a search with these options. -/
def SearchRequest.ofGiven (given : List Given) : SearchRequest where
  query := (given.findSome? fun | .query s => some s | _ => none).getD ""
  cameras := given.filterMap fun | .camera s => some s | _ => none
  severities := given.filterMap fun | .severity s => some s | _ => none
  objectTypes := given.filterMap fun | .objectType s => some s | _ => none
  reviewed := given.findSome? fun | .reviewed b => some b | _ => none
  startDate := given.findSome? fun | .start t => some t | _ => none
  endDate := given.findSome? fun | .finish t => some t | _ => none
  limit := (given.findSome? fun | .limit n => some n | _ => none).getD 20
  offset := (given.findSome? fun | .offset n => some n | _ => none).getD 0

/-- The request of a command with these options. -/
def Request.ofGiven (c : Command) (given : List Given) : Request :=
  match c with
  | .search => .search (.ofGiven given)
  | .backfillIndex => .backfillIndex ((given.findSome? fun | .batch n => some n | _ => none).getD 500)
  | .initSchema => .initSchema

namespace Invocation

/-- The path of the settings if none is given. -/
def defaultConfig : String := "vigil.toml"

/-- The invocation of the arguments. A path of the settings within the command is preferred to one before it. -/
def ofArgs (args : List (List Char)) : Except Refusal Invocation := do
  match ← readLevel none .start args with
  | (p, none) => .error (if (← p.settle).isEmpty then .nothingGiven else .missingCommand)
  | (p, some (c, rest)) =>
    let (q, _) ← readLevel (some c) .start rest
    let own ← q.settle
    let outer ← p.settle
    return ⟨((config? own).or (config? outer)).getD defaultConfig, .ofGiven c own⟩

end Invocation
end Lookout.Cli
