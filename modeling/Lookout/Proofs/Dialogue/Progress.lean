import Lookout.Dialogue
import Mathlib.Data.List.TakeWhile

/-! What a dialogue has sent, and how far it has come with the answers so far: a statement waits for the next one,
    or the dialogue has ended. A statement that is sent until it changes nothing takes the answers that tell of a change,
    and one more. -/

namespace Lookout

namespace Sql.Reply

/-- The number of rows that an answer says were changed. A failure says nothing of the kind. -/
def changed (r : Reply) : Nat :=
  match r.executed with
  | .ok n => n.toNat
  | .error _ => 0

theorem changed_of_executed {r : Reply} {n : UInt64} (h : r.executed = .ok n) : r.changed = n.toNat := by
  rw [changed, h]

theorem changed_of_failed {r : Reply} {e : Failure} (h : r.executed = .error e) : r.changed = 0 := by
  rw [changed, h]

end Sql.Reply

namespace Dialogue

variable {α : Type}

/-- The statement that an event sends, if it sends one. -/
def Event.statement? : Event → Option Sql.Statement
  | .sent s => some s
  | _ => none

/-- The statements that were sent, in order. -/
def Outcome.statements (o : Outcome α) : List Sql.Statement := o.events.filterMap Event.statement?

@[simp] theorem statements_sent (s : Sql.Statement) (o : Outcome α) :
    (o.cons (.sent s)).statements = s :: o.statements := rfl

@[simp] theorem statements_noted (n : Notice) (o : Outcome α) : (o.cons (.noted n)).statements = o.statements := rfl

@[simp] theorem result_cons (e : Event) (o : Outcome α) : (o.cons e).result = o.result := rfl

/-- The statement that waits for an answer behind these. -/
def awaited? (d : Dialogue α) (replies : List Sql.Reply) : Option Sql.Statement :=
  (d.replay ⟨replies, []⟩).statements[replies.length]?

/-- The dialogue has ended with the last of these answers, and this is its result. -/
def Ends (d : Dialogue α) (replies : List Sql.Reply) (a : α) : Prop :=
  (d.replay ⟨replies, []⟩).statements.length = replies.length ∧ (d.replay ⟨replies, []⟩).result = a

/-! ### Statements that are sent until they change nothing -/

/-- The answers before the first one that fails or says that nothing changed. -/
def going (replies : List Sql.Reply) : List Sql.Reply := replies.takeWhile fun r => 0 < r.changed

/-- The first answer that fails or says that nothing changed. None at all says that too. -/
def last (replies : List Sql.Reply) : Sql.Reply := replies.getD (going replies).length Script.noReply

section
variable {r : Sql.Reply} {replies : List Sql.Reply}

theorem going_cons_of_pos (h : 0 < r.changed) : going (r :: replies) = r :: going replies :=
  List.takeWhile_cons_of_pos (decide_eq_true h)

theorem last_cons_of_pos (h : 0 < r.changed) : last (r :: replies) = last replies := by
  rw [last, going_cons_of_pos h, List.length_cons, List.getD_cons_succ, last]

theorem going_cons_of_zero (h : r.changed = 0) : going (r :: replies) = [] :=
  List.takeWhile_cons_of_neg (by simp [h])

theorem last_cons_of_zero (h : r.changed = 0) : last (r :: replies) = r := by
  rw [last, going_cons_of_zero h, List.length_nil, List.getD_cons_zero]

theorem changed_last (replies : List Sql.Reply) : (last replies).changed = 0 := by
  induction replies with
  | nil => rfl
  | cons r replies ih =>
    rcases Nat.eq_zero_or_pos r.changed with h | h
    · rw [last_cons_of_zero h, h]
    · rw [last_cons_of_pos h, ih]

end

section
variable (s : Sql.Statement) (notice : UInt64 → UInt64 → Notice) (total : UInt64)

theorem drainReplies_of_zero {r : Sql.Reply} (replies : List Sql.Reply) (h : r.changed = 0) :
    drainReplies s notice total (r :: replies) = ([.sent s], r.executed.map fun _ => total, replies) := by
  rw [drainReplies]
  cases hr : r.executed with
  | error e => rfl
  | ok n =>
    have hn : n = 0 := UInt64.toNat_inj.mp ((Sql.Reply.changed_of_executed hr).symm.trans h)
    rw [hn]
    rfl

theorem drainReplies_of_pos {r : Sql.Reply} (replies : List Sql.Reply) (h : 0 < r.changed) :
    drainReplies s notice total (r :: replies) =
      let n := UInt64.ofNat r.changed
      (.sent s :: .noted (notice n (total + n)) :: (drainReplies s notice (total + n) replies).1,
        (drainReplies s notice (total + n) replies).2) := by
  rw [drainReplies]
  cases hr : r.executed with
  | error e => exact absurd (Sql.Reply.changed_of_failed hr) (Nat.ne_of_gt h)
  | ok n =>
    have hchanged := Sql.Reply.changed_of_executed hr
    have hn : n ≠ 0 := by
      rintro rfl
      exact Nat.ne_of_gt h hchanged
    simp only [if_neg hn, hchanged, UInt64.ofNat_toNat]

/-- One statement is sent for each answer before the last, and one that takes the last. -/
theorem drainReplies_statements (replies : List Sql.Reply) :
    (drainReplies s notice total replies).1.filterMap Event.statement? =
      List.replicate ((going replies).length + 1) s := by
  induction replies generalizing total with
  | nil => rfl
  | cons r replies ih =>
    rcases Nat.eq_zero_or_pos r.changed with h | h
    · rw [drainReplies_of_zero s notice total replies h, going_cons_of_zero h]
      rfl
    · rw [drainReplies_of_pos s notice total replies h, going_cons_of_pos h]
      exact congrArg (s :: ·) (ih _)

/-- The answers behind the last are left. -/
theorem drainReplies_rest (replies : List Sql.Reply) :
    (drainReplies s notice total replies).2.2 = replies.drop ((going replies).length + 1) := by
  induction replies generalizing total with
  | nil => rfl
  | cons r replies ih =>
    rcases Nat.eq_zero_or_pos r.changed with h | h
    · rw [drainReplies_of_zero s notice total replies h, going_cons_of_zero h]
      rfl
    · rw [drainReplies_of_pos s notice total replies h, going_cons_of_pos h]
      exact ih _

/-- The result is the failure of the last answer, or the total of the changes before it. -/
theorem drainReplies_result (replies : List Sql.Reply) :
    (drainReplies s notice total replies).2.1 =
      (last replies).executed.map fun _ => (going replies).foldl (fun total r => total + .ofNat r.changed) total := by
  induction replies generalizing total with
  | nil => rfl
  | cons r replies ih =>
    rcases Nat.eq_zero_or_pos r.changed with h | h
    · rw [drainReplies_of_zero s notice total replies h, going_cons_of_zero h, last_cons_of_zero h]
      rfl
    · rw [drainReplies_of_pos s notice total replies h, going_cons_of_pos h, last_cons_of_pos h]
      exact ih _

end

section
variable (s : Sql.Statement) (notice : UInt64 → UInt64 → Notice) {f : Except Sql.Failure UInt64 → α}

theorem statements_drain (script : Script) :
    ((drain s notice fun r => .done (f r)).replay script).statements =
      List.replicate ((going script.replies).length + 1) s := by
  rw [← drainReplies_statements s notice 0]
  simp only [replay, Outcome.statements, List.append_nil]

theorem result_drain (script : Script) :
    ((drain s notice fun r => .done (f r)).replay script).result =
      f ((last script.replies).executed.map fun _ =>
        (going script.replies).foldl (fun total r => total + .ofNat r.changed) 0) :=
  congrArg f (drainReplies_result s notice 0 script.replies)

theorem rest_drain (script : Script) :
    ((drain s notice fun r => .done (f r)).replay script).rest =
      ⟨script.replies.drop ((going script.replies).length + 1), script.refusals⟩ := by
  rw [← drainReplies_rest s notice 0]
  rfl

/-! ### Answers that are counts -/

variable {before : List UInt64}

theorem changed_affected (n : UInt64) : (Sql.Reply.affected n).changed = n.toNat := rfl

theorem going_of_forall (h : ∀ n ∈ before, n ≠ 0) : going (before.map .affected) = before.map .affected := by
  refine List.takeWhile_eq_self_iff.mpr (List.forall_mem_map.mpr fun n hn => decide_eq_true ?_)
  exact Nat.pos_of_ne_zero fun hzero => h n hn (UInt64.toNat_inj.mp hzero)

theorem going_of_zero (h : ∀ n ∈ before, n ≠ 0) (rest : List UInt64) :
    going ((before ++ 0 :: rest).map .affected) = before.map .affected := by
  induction before with
  | nil => exact going_cons_of_zero rfl
  | cons n before ih =>
    obtain ⟨hn, hbefore⟩ := List.forall_mem_cons.mp h
    have hpos : 0 < (Sql.Reply.affected n).changed := Nat.pos_of_ne_zero fun hzero => hn (UInt64.toNat_inj.mp hzero)
    rw [List.cons_append, List.map_cons, going_cons_of_pos hpos, ih hbefore]
    rfl

theorem last_of_zero (h : ∀ n ∈ before, n ≠ 0) (rest : List UInt64) :
    last ((before ++ 0 :: rest).map .affected) = .affected 0 := by
  rw [last, going_of_zero h]
  simp

theorem foldl_affected (counts : List UInt64) (total : UInt64) :
    (counts.map Sql.Reply.affected).foldl (fun total r => total + .ofNat r.changed) total = counts.foldl (· + ·) total := by
  rw [List.foldl_map]
  simp only [changed_affected, UInt64.ofNat_toNat]

theorem eq_zero_cases (counts : List UInt64) :
    (∀ n ∈ counts, n ≠ 0) ∨ ∃ before rest, counts = before ++ 0 :: rest ∧ ∀ n ∈ before, n ≠ 0 := by
  induction counts with
  | nil => exact Or.inl (by simp)
  | cons n counts ih =>
    by_cases hn : n = 0
    · exact Or.inr ⟨[], counts, by rw [hn]; rfl, by simp⟩
    · rcases ih with hcounts | ⟨before, rest, rfl, hbefore⟩
      · exact Or.inl (List.forall_mem_cons.mpr ⟨hn, hcounts⟩)
      · exact Or.inr ⟨n :: before, rest, rfl, List.forall_mem_cons.mpr ⟨hn, hbefore⟩⟩

/-- The statement waits for an answer as long as none of the answers was that nothing changed. -/
theorem awaited?_drain (counts : List UInt64) (t : Sql.Statement) :
    (drain s notice fun r => .done (f r)).awaited? (counts.map .affected) = some t ↔
      t = s ∧ ∀ n ∈ counts, n ≠ 0 := by
  rw [awaited?, statements_drain, List.length_map]
  rcases eq_zero_cases counts with h | ⟨before, rest, rfl, hbefore⟩
  · rw [going_of_forall h, List.length_map, List.getElem?_replicate_of_lt (Nat.lt_succ_self _), Option.some.injEq]
    exact ⟨fun ht => ⟨ht.symm, h⟩, fun ht => ht.1.symm⟩
  · have hlong : (List.replicate (before.length + 1) s)[(before ++ 0 :: rest).length]? = none :=
      List.getElem?_eq_none (by simp)
    rw [going_of_zero hbefore, List.length_map, hlong]
    exact ⟨nofun, fun ht => absurd rfl (ht.2 0 (by simp))⟩

/-- It has ended when the last answer is the first that says that nothing changed. The sum of the others goes into
    the result. -/
theorem ends_drain (counts : List UInt64) (a : α) :
    (drain s notice fun r => .done (f r)).Ends (counts.map .affected) a ↔
      ∃ before, counts = before ++ [0] ∧ (∀ n ∈ before, n ≠ 0) ∧ a = f (.ok (before.foldl (· + ·) 0)) := by
  rw [Ends, statements_drain, result_drain, List.length_map, List.length_replicate]
  constructor
  · rintro ⟨hlen, rfl⟩
    rcases eq_zero_cases counts with h | ⟨before, rest, rfl, hbefore⟩
    · rw [going_of_forall h, List.length_map] at hlen
      exact absurd hlen (Nat.succ_ne_self _)
    · rw [going_of_zero hbefore, List.length_map, List.length_append, List.length_cons] at hlen
      obtain rfl : rest = [] := List.length_eq_zero_iff.mp (by omega)
      refine ⟨before, rfl, hbefore, ?_⟩
      rw [going_of_zero hbefore, last_of_zero hbefore, foldl_affected]
      rfl
  · rintro ⟨before, rfl, hbefore, rfl⟩
    rw [going_of_zero hbefore, last_of_zero hbefore, foldl_affected, List.length_map, List.length_append]
    exact ⟨rfl, rfl⟩

end

end Dialogue
end Lookout
