import Lookout.Dialogue

/-! The operations of a dialogue with more behind them, as the steps that they take. -/

namespace Lookout.Dialogue

variable {α β ε ε' : Type}

theorem run_tell_bind (n : Notice) (next : Unit → Fallible ε β) : (tell n >>= next).run = .note n (next ()).run := rfl

theorem run_mapError_ask (f : Sql.Failure → ε) (s : Sql.Statement) (read : Sql.Reply → Except Sql.Failure α) :
    (mapError f (ask s read)).run = .send s fun r => .done ((read r).mapError f) := rfl

/-- Nothing comes behind an answer that cannot be read. -/
theorem run_bind_of_send {d : Fallible ε α} {s : Sql.Statement} {read : Sql.Reply → Except ε α}
    (h : d.run = .send s fun r => .done (read r)) (next : α → Fallible ε β) :
    (d >>= next).run = .send s fun r =>
      match read r with
      | .error e => .done (.error e)
      | .ok a => (next a).run := by
  change d.run.bind (ExceptT.bindCont next) = _
  rw [h]
  refine congrArg (Dialogue.send s) (funext fun r => ?_)
  change (Dialogue.done (read r)).bind (ExceptT.bindCont next) = _
  cases read r with
  | error e => rfl
  | ok a => rfl

/-! ### Replaying -/

section
variable {d : Fallible ε α} {script rest : Script} {events : List Event}

theorem replay_bind_ok {a : α} (h : d.run.replay script = ⟨events, .ok a, rest⟩) (next : α → Fallible ε β) :
    (d >>= next).run.replay script = ((next a).run.replay rest).after events := by
  change (d.run.bind (ExceptT.bindCont next)).replay script = _
  rw [replay_bind, h]
  rfl

/-- Nothing comes behind an error. -/
theorem replay_bind_error {e : ε} (h : d.run.replay script = ⟨events, .error e, rest⟩) (next : α → Fallible ε β) :
    (d >>= next).run.replay script = ⟨events, .error e, rest⟩ := by
  change (d.run.bind (ExceptT.bindCont next)).replay script = _
  rw [replay_bind, h]
  exact congrArg (Outcome.mk · _ _) (List.append_nil _)

end

theorem replay_ask (s : Sql.Statement) (read : Sql.Reply → Except Sql.Failure α) (script : Script) :
    (ask s read).run.replay script = ⟨[.sent s], read script.reply.1, script.reply.2⟩ := rfl

theorem replay_mapError (f : ε → ε') (d : Fallible ε α) (script : Script) :
    (mapError f d).run.replay script =
      ⟨(d.run.replay script).events, (d.run.replay script).result.mapError f, (d.run.replay script).rest⟩ := by
  change (d.run.bind fun r => .done (r.mapError f)).replay script = _
  rw [replay_bind]
  exact congrArg (Outcome.mk · _ _) (List.append_nil _)

end Lookout.Dialogue
