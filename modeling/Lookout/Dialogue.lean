import Lookout.Notice
import Lookout.Sql.Reply
import Lookout.Sql.Statement

/-! Dialogues with a database. A dialogue says what is sent and how it goes on with each answer; it does
    nothing by itself. It is carried out by the program, or replayed against a list of answers, which gives
    its result and the record of all that was sent. -/

namespace Lookout

/-- A dialogue that ends with a value. -/
inductive Dialogue (α : Type) where
  | done (a : α)
  /-- Open a connection to a database. The failure says why it is refused. -/
  | connect (database : String) (next : Option Sql.Failure → Dialogue α)
  /-- Send a statement and wait for the answer. -/
  | send (s : Sql.Statement) (next : Sql.Reply → Dialogue α)
  /-- Send a statement whose answer does not matter. -/
  | post (s : Sql.Statement) (next : Dialogue α)
  | note (n : Notice) (next : Dialogue α)
  /-- Wait for some milliseconds. -/
  | pause (millis : Nat) (next : Dialogue α)
  /-- Send a statement again and again until it changes nothing or fails. The notice tells of each number of
      changes and of their sum so far, and the sum is the result. -/
  | drain (s : Sql.Statement) (notice : UInt64 → UInt64 → Notice) (next : Except Sql.Failure UInt64 → Dialogue α)

namespace Dialogue

/-- One dialogue after another. -/
def bind {α β : Type} : Dialogue α → (α → Dialogue β) → Dialogue β
  | .done a, f => f a
  | .connect d next, f => .connect d fun r => (next r).bind f
  | .send s next, f => .send s fun r => (next r).bind f
  | .post s next, f => .post s (next.bind f)
  | .note n next, f => .note n (next.bind f)
  | .pause millis next, f => .pause millis (next.bind f)
  | .drain s notice next, f => .drain s notice fun r => (next r).bind f

instance : Monad Dialogue where
  pure := .done
  bind := bind

/-- A dialogue whose result may be an error. -/
abbrev Fallible (ε α : Type) := ExceptT ε Dialogue α

/-- Send a statement and read its answer. -/
def ask {α : Type} (s : Sql.Statement) (read : Sql.Reply → Except Sql.Failure α) : Fallible Sql.Failure α :=
  ExceptT.mk (.send s fun r => .done (read r))

/-- Send a statement that changes rows. -/
def execute (s : Sql.Statement) : Fallible Sql.Failure UInt64 := ask s Sql.Reply.executed

/-- Open a connection. -/
def connectTo (database : String) : Fallible Sql.Failure Unit :=
  ExceptT.mk (.connect database fun
    | none => .done (.ok ())
    | some e => .done (.error e))

/-- The milliseconds between the attempts to connect. Each pause is twice the one before, but no longer than
    six seconds, and all of them together take less than thirty. -/
def pauses : List Nat := [10, 20, 40, 80, 160, 320, 640, 1280, 2560, 5120, 6000, 6000, 6000]

/-- Open a connection, and try again after each of these pauses while the database takes none. -/
def connectAgain (database : String) : List Nat → Fallible Sql.Failure Unit
  | [] => ExceptT.mk (.connect database fun
    | none => .done (.ok ())
    | some (.unavailable _) => .done (.error .timedOut)
    | some e => .done (.error e))
  | millis :: rest => ExceptT.mk (.connect database fun
    | none => .done (.ok ())
    | some (.unavailable _) => .pause millis (connectAgain database rest).run
    | some e => .done (.error e))

/-- Open a connection to a database that may be starting or busy. -/
def connectPatiently (database : String) : Fallible Sql.Failure Unit := connectAgain database pauses

/-- Note an event. -/
def tell {ε : Type} (n : Notice) : Fallible ε Unit := ExceptT.mk (.note n (.done (.ok ())))

/-- Errors of another kind. -/
def mapError {ε ε' α : Type} (f : ε → ε') (d : Fallible ε α) : Fallible ε' α :=
  ExceptT.mk (d.run.bind fun r => .done (r.mapError f))

/-! ### Replaying -/

/-- The answers that are given in turn: to statements, and to attempts to connect. -/
structure Script where
  replies : List Sql.Reply
  refusals : List (Option Sql.Failure)

/-- A step of a dialogue that was carried out. -/
inductive Event where
  | connected (database : String)
  | sent (s : Sql.Statement)
  | noted (n : Notice)
  deriving Repr, DecidableEq

/-- The answer when the list of answers is at its end: nothing returned and nothing changed. -/
def Script.noReply : Sql.Reply := .rows []

/-- The next answer, and the script without it. -/
def Script.reply (s : Script) : Sql.Reply × Script := (s.replies.headD noReply, { s with replies := s.replies.tail })

/-- The next outcome of an attempt to connect, and the script without it. -/
def Script.refusal (s : Script) : Option Sql.Failure × Script :=
  (s.refusals.headD none, { s with refusals := s.refusals.tail })

/-- What came of a dialogue: its events, its result, and the answers that are left. -/
structure Outcome (α : Type) where
  events : List Event
  result : α
  rest : Script

/-- The outcome with an event in front. -/
def Outcome.cons {α : Type} (e : Event) (o : Outcome α) : Outcome α := { o with events := e :: o.events }

/-- A statement sent until it changes nothing, after changes of `total` rows. When no answers are left, it
    changes nothing. -/
def drainReplies (s : Sql.Statement) (notice : UInt64 → UInt64 → Notice) (total : UInt64) :
    List Sql.Reply → List Event × Except Sql.Failure UInt64 × List Sql.Reply
  | [] => ([.sent s], .ok total, [])
  | r :: rest =>
    match r.executed with
    | .error e => ([.sent s], .error e, rest)
    | .ok n =>
      if n = 0 then ([.sent s], .ok total, rest)
      else
        let (events, result, rest) := drainReplies s notice (total + n) rest
        (.sent s :: .noted (notice n (total + n)) :: events, result, rest)

/-- The outcome of a dialogue with the answers of a script. -/
def replay {α : Type} : Dialogue α → Script → Outcome α
  | .done a, script => ⟨[], a, script⟩
  | .connect d next, script =>
    let (r, script) := script.refusal
    ((next r).replay script).cons (.connected d)
  | .send s next, script =>
    let (r, script) := script.reply
    ((next r).replay script).cons (.sent s)
  | .post s next, script => (next.replay script).cons (.sent s)
  | .note n next, script => (next.replay script).cons (.noted n)
  | .pause _ next, script => next.replay script
  | .drain s notice next, script =>
    let (events, result, replies) := drainReplies s notice 0 script.replies
    let o := (next result).replay { script with replies }
    { o with events := events ++ o.events }

/-- The outcome of what follows, with the events of what came before. -/
def Outcome.after {α : Type} (events : List Event) (o : Outcome α) : Outcome α :=
  { o with events := events ++ o.events }

/-- A second dialogue goes on with the answers that the first one leaves. -/
theorem replay_bind {α β : Type} (d : Dialogue α) (f : α → Dialogue β) (script : Script) :
    (d.bind f).replay script
      = ((f (d.replay script).result).replay (d.replay script).rest).after (d.replay script).events := by
  induction d generalizing script with
  | done a => rfl
  | connect database next ih => simp only [bind, replay, ih]; rfl
  | send s next ih => simp only [bind, replay, ih]; rfl
  | post s next ih => simp only [bind, replay, ih]; rfl
  | note n next ih => simp only [bind, replay, ih]; rfl
  | pause millis next ih => simp only [bind, replay, ih]
  | drain s notice next ih => simp only [bind, replay, ih, Outcome.after, List.append_assoc]

theorem bind_assoc {α β γ : Type} (d : Dialogue α) (f : α → Dialogue β) (g : β → Dialogue γ) :
    (d.bind f).bind g = d.bind fun a => (f a).bind g := by
  induction d with
  | done a => rfl
  | connect database next ih => simp only [bind, ih]
  | send s next ih => simp only [bind, ih]
  | post s next ih => simp only [bind, ih]
  | note n next ih => simp only [bind, ih]
  | pause millis next ih => simp only [bind, ih]
  | drain s notice next ih => simp only [bind, ih]

end Dialogue
end Lookout
