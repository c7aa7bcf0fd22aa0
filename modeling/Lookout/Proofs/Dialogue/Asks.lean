import Lookout.Proofs.Dialogue.Progress
import Lookout.Proofs.Dialogue.Steps

/-! Dialogues that send one statement and end with what they read in its answer. -/

namespace Lookout.Dialogue

variable {α β ε ε' : Type}

/-- The dialogue sends one statement, and its result is read from the answer. -/
def Asks (d : Fallible ε α) (s : Sql.Statement) (read : Sql.Reply → Except ε α) : Prop :=
  d.run = .send s fun r => .done (read r)

namespace Asks

variable {d : Fallible ε α} {s : Sql.Statement} {read : Sql.Reply → Except ε α}

theorem ask (s : Sql.Statement) (read : Sql.Reply → Except Sql.Failure α) : Asks (Dialogue.ask s read) s read := rfl

theorem mapError (h : Asks d s read) (f : ε → ε') : Asks (Dialogue.mapError f d) s fun r => (read r).mapError f := by
  change d.run.bind _ = _
  rw [h]
  rfl

theorem bind (h : Asks d s read) {next : α → Fallible ε β} {g : α → Except ε β} (hnext : ∀ a, (next a).run = .done (g a)) :
    Asks (d >>= next) s fun r => (read r).bind g := by
  rw [Asks, run_bind_of_send h]
  refine congrArg (Dialogue.send s) (funext fun r => ?_)
  cases read r with
  | error e => rfl
  | ok a => exact hnext a

theorem awaited? (h : Asks d s read) (replies : List Sql.Reply) (t : Sql.Statement) :
    d.run.awaited? replies = some t ↔ replies = [] ∧ t = s := by
  rw [Dialogue.awaited?, h]
  cases replies with
  | nil => simp [replay, Outcome.statements, Outcome.cons, Event.statement?, eq_comm]
  | cons r rest => simp [replay, Outcome.statements, Outcome.cons, Event.statement?]

theorem ends (h : Asks d s read) (r : Sql.Reply) (a : Except ε α) : d.run.Ends [r] a ↔ read r = a := by
  rw [Ends, h]
  simp [replay, Outcome.statements, Outcome.cons, Event.statement?, Script.reply]

end Asks

/-- All that a statement waits for that is sent again and again is an answer to itself. -/
theorem eq_of_awaited?_drain {s t : Sql.Statement} {notice : UInt64 → UInt64 → Notice}
    {f : Except Sql.Failure UInt64 → α} {replies : List Sql.Reply}
    (h : (drain s notice fun r => .done (f r)).awaited? replies = some t) : t = s := by
  rw [awaited?, statements_drain] at h
  exact List.eq_of_mem_replicate (List.mem_of_getElem? h)

end Lookout.Dialogue
