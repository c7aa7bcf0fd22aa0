import Lookout.Proofs.Dialogue.Progress

/-! The statements of a dialogue with their answers. They are sent in this order, and the answers are those of the
    script. -/

namespace Lookout.Dialogue

variable {α β : Type}

/-- A statement that was sent, and the answer to it. There is none if nobody waits for it. -/
structure Exchange where
  statement : Sql.Statement
  answer : Option Sql.Reply

namespace Exchange

/-- The statement was answered, and not with a failure. -/
def succeeded (x : Exchange) : Bool := x.answer.any (·.executed.isOk)

/-- The failure with which the statement was answered, if it was. -/
def failure? (x : Exchange) : Option Sql.Failure :=
  x.answer.bind fun r =>
    match r.executed with
    | .error e => some e
    | .ok _ => none

theorem failure?_of_succeeded {x : Exchange} (h : x.succeeded = true) : x.failure? = none := by
  obtain ⟨statement, answer⟩ := x
  cases answer with
  | none => rfl
  | some r =>
    cases hr : r.executed with
    | error e => simp [succeeded, hr, Except.isOk, Except.toBool] at h
    | ok n => simp [failure?, hr]

theorem not_succeeded {x : Exchange} {e : Sql.Failure} (h : x.failure? = some e) : ¬ x.succeeded = true := by
  intro hdone
  cases (failure?_of_succeeded hdone).symm.trans h

section
variable {s : Sql.Statement} {r : Sql.Reply}

theorem succeeded_of_ok {n : UInt64} (h : r.executed = .ok n) : succeeded ⟨s, some r⟩ = true := by
  simp [succeeded, h, Except.isOk, Except.toBool]

theorem failure?_of_error {e : Sql.Failure} (h : r.executed = .error e) : failure? ⟨s, some r⟩ = some e := by
  simp [failure?, h]

end
end Exchange

/-- The statements of a dialogue in the order in which they are sent, each with the answer that a script gives it. -/
def exchanges : Dialogue α → Script → List Exchange
  | .done _, _ => []
  | .connect _ next, script =>
    let (r, script) := script.refusal
    (next r).exchanges script
  | .send s next, script =>
    let (r, script) := script.reply
    ⟨s, some r⟩ :: (next r).exchanges script
  | .post s next, script => ⟨s, none⟩ :: next.exchanges script
  | .note _ next, script => next.exchanges script
  | .pause _ next, script => next.exchanges script
  | .drain s notice next, script =>
    let (_, result, replies) := drainReplies s notice 0 script.replies
    (going script.replies ++ [last script.replies]).map (⟨s, some ·⟩) ++
      (next result).exchanges { script with replies }

theorem exchanges_send (s : Sql.Statement) (next : Sql.Reply → Dialogue α) (script : Script) :
    (send s next).exchanges script = ⟨s, some script.reply.1⟩ :: (next script.reply.1).exchanges script.reply.2 := rfl

theorem result_send (s : Sql.Statement) (next : Sql.Reply → Dialogue α) (script : Script) :
    ((send s next).replay script).result = ((next script.reply.1).replay script.reply.2).result := rfl

theorem map_statement_exchanges (d : Dialogue α) (script : Script) :
    (d.exchanges script).map (·.statement) = (d.replay script).statements := by
  induction d generalizing script with
  | done a => rfl
  | connect database next ih => exact ih _ _
  | send s next ih => exact congrArg (s :: ·) (ih _ _)
  | post s next ih => exact congrArg (s :: ·) (ih _)
  | note n next ih => exact ih _
  | pause millis next ih => exact ih _
  | drain s notice next ih =>
    have hsame (replies : List Sql.Reply) :
        (replies.map fun r => (⟨s, some r⟩ : Exchange)).map (·.statement) = List.replicate replies.length s := by
      rw [List.map_map]
      exact List.map_const
    rw [exchanges, List.map_append, hsame, ih, List.length_append, List.length_singleton,
      ← drainReplies_statements s notice 0]
    exact List.filterMap_append.symm

theorem exists_going_append_last (replies : List Sql.Reply) :
    ∃ n, going replies ++ last replies :: replies.drop ((going replies).length + 1) =
      replies ++ List.replicate n Script.noReply := by
  induction replies with
  | nil => exact ⟨1, rfl⟩
  | cons r replies ih =>
    rcases Nat.eq_zero_or_pos r.changed with h | h
    · rw [going_cons_of_zero h, last_cons_of_zero h]
      exact ⟨0, (List.append_nil _).symm⟩
    · rw [going_cons_of_pos h, last_cons_of_pos h]
      obtain ⟨n, hn⟩ := ih
      exact ⟨n, congrArg (r :: ·) hn⟩

/-- The answers are those of the script in turn. When no more are left, each further one returns nothing. -/
theorem exists_answers_append_rest (d : Dialogue α) (script : Script) :
    ∃ n, (d.exchanges script).filterMap (·.answer) ++ (d.replay script).rest.replies =
      script.replies ++ List.replicate n Script.noReply := by
  induction d generalizing script with
  | done a => exact ⟨0, (List.append_nil _).symm⟩
  | connect database next ih => exact ih _ _
  | send s next ih =>
    obtain ⟨replies, refusals⟩ := script
    cases replies with
    -- No answer is left, so the statement returns nothing.
    | nil =>
      obtain ⟨n, hn⟩ := ih Script.noReply ⟨[], refusals⟩
      exact ⟨n + 1, congrArg (Script.noReply :: ·) hn⟩
    | cons r replies =>
      obtain ⟨n, hn⟩ := ih r ⟨replies, refusals⟩
      exact ⟨n, congrArg (r :: ·) hn⟩
  | post s next ih => exact ih _
  | note n next ih => exact ih _
  | pause millis next ih => exact ih _
  | drain s notice next ih =>
    obtain ⟨n, hn⟩ := ih (drainReplies s notice 0 script.replies).2.1
      { script with replies := (drainReplies s notice 0 script.replies).2.2 }
    obtain ⟨m, hm⟩ := exists_going_append_last script.replies
    refine ⟨m + n, ?_⟩
    have hsame (replies : List Sql.Reply) :
        (replies.map fun r => (⟨s, some r⟩ : Exchange)).filterMap (·.answer) = replies := by
      rw [List.filterMap_map]
      exact List.filterMap_some
    rw [exchanges, List.filterMap_append, hsame, List.append_assoc]
    refine (congrArg _ hn).trans ?_
    rw [drainReplies_rest, ← List.append_assoc, List.append_assoc (going _), List.singleton_append, hm, List.append_assoc,
      List.replicate_append_replicate]

/-- The second dialogue takes the answers that the first one leaves. -/
theorem exchanges_bind (d : Dialogue α) (f : α → Dialogue β) (script : Script) :
    (d.bind f).exchanges script =
      d.exchanges script ++ (f (d.replay script).result).exchanges (d.replay script).rest := by
  induction d generalizing script with
  | done a => rfl
  | connect database next ih => exact ih _ _
  | send s next ih => exact congrArg (_ :: ·) (ih _ _)
  | post s next ih => exact congrArg (_ :: ·) (ih _)
  | note n next ih => exact ih _
  | pause millis next ih => exact ih _
  | drain s notice next ih => simp only [bind, exchanges, replay, ih, List.append_assoc]

end Lookout.Dialogue
