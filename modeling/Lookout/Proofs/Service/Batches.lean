import Lookout.Proofs.Dialogue.Progress
import Lookout.Service.Index
import Mathlib.Algebra.GroupWithZero.Nat

/-! What a run that indexes all events does with any answers, whoever gives them. It goes on while a batch changes
    something, however little, and stops at the first answer that is a failure or says that nothing changed. All its
    statements are alike, and its total is exact as long as it fits into a word. -/

namespace Lookout

open Dialogue (Script)

namespace Dialogue

theorem toNat_foldl (replies : List Sql.Reply) {total : UInt64}
    (h : total.toNat + (replies.map Sql.Reply.changed).sum < 18446744073709551616) :
    (replies.foldl (fun total r => total + .ofNat r.changed) total).toNat =
      total.toNat + (replies.map Sql.Reply.changed).sum := by
  induction replies generalizing total with
  | nil => rfl
  | cons r replies ih =>
    rw [List.map_cons, List.sum_cons] at h
    have hadd : (total + .ofNat r.changed).toNat = total.toNat + r.changed := by
      rw [UInt64.toNat_add, UInt64.toNat_ofNat_of_lt' (by rw [UInt64.size]; omega), Nat.mod_eq_of_lt (by omega)]
    rw [List.foldl_cons, ih (by omega), hadd, List.map_cons, List.sum_cons, Nat.add_assoc]

/-- A statement was sent until it changed nothing, with the answers of a script. Of a failure `wrap` makes an error. -/
structure Outcome.Drains {ε : Type} (o : Outcome (Except ε UInt64)) (s : Sql.Statement) (wrap : Sql.Failure → ε)
    (script : Script) : Prop where
  statements : o.statements = List.replicate ((going script.replies).length + 1) s
  rest : o.rest = ⟨script.replies.drop ((going script.replies).length + 1), script.refusals⟩
  failed : ∀ e, (last script.replies).executed = .error e → o.result = .error (wrap e)
  /-- The total is exact if it fits into 64 bits. -/
  finished : ∀ n, (last script.replies).executed = .ok n → n = 0 ∧
    (((going script.replies).map Sql.Reply.changed).sum < 18446744073709551616 →
      ∃ total, o.result = .ok total ∧ total.toNat = ((going script.replies).map Sql.Reply.changed).sum)

theorem drains_drain {ε : Type} (s : Sql.Statement) (notice : UInt64 → UInt64 → Notice) (wrap : Sql.Failure → ε)
    (script : Script) :
    ((drain s notice fun r => .done (r.mapError wrap)).replay script).Drains s wrap script := by
  have hresult := result_drain s notice (f := Except.mapError wrap) script
  refine ⟨statements_drain s notice script, rest_drain s notice script, fun e he => ?_, fun n hn => ⟨?_, fun hfits => ?_⟩⟩
  · rw [hresult, he]
    rfl
  · exact UInt64.toNat_inj.mp ((Sql.Reply.changed_of_executed hn).symm.trans (changed_last _))
  · refine ⟨_, by rw [hresult, hn]; rfl, ?_⟩
    rw [toNat_foldl _ (by rwa [UInt64.toNat_zero, Nat.zero_add]), UInt64.toNat_zero, Nat.zero_add]

end Dialogue

namespace Service

theorem run_storage_backfill {batch : UInt32} (hbatch : batch ≠ 0) (config : String) :
    (Storage.backfill config batch).run =
      .drain (Storage.backfillStatement config batch) Notice.backfilled fun r => .done (r.mapError .sql) := by
  rw [Storage.backfill, if_neg hbatch]
  rfl

theorem run_backfillIndex {batch : UInt32} (hbatch : batch ≠ 0) (config : String) :
    (backfillIndex config batch).run =
      .drain (Storage.backfillStatement config batch) Notice.backfilled fun r => .done (r.mapError .sql) := by
  rw [backfillIndex, if_neg hbatch]
  change (Storage.backfill config batch).run.bind _ = _
  rw [run_storage_backfill hbatch]
  refine congrArg (Dialogue.drain _ _) (funext fun r => ?_)
  cases r <;> rfl

theorem toInt_batch (batch : UInt32) : (Int64.ofNat batch.toNat).toInt = batch.toNat := by
  have h := batch.toNat_lt
  exact Int64.toInt_ofNat_of_lt (by omega)

/-- A run with empty batches sends nothing. Any other sends the same statement with the same values up to the first
    answer that fails or says that nothing changed, and none behind it; the failure is its error, or the sum of the
    changes before is its total. -/
theorem backfill_follows_answers (config : String) (batch : UInt32) (script : Script) :
    let s := Storage.backfillStatement config batch
    let stored := (Storage.backfill config batch).run.replay script
    let served := (backfillIndex config batch).run.replay script
    (batch = 0 → stored = ⟨[], .error .emptyBatch, script⟩ ∧ served = ⟨[], .error .emptyBatch, script⟩) ∧
    (batch ≠ 0 → stored.Drains s .sql script ∧ served.Drains s .sql script) ∧
    (∃ n, s.params = [.text config, .int8 n] ∧ n.toInt = batch.toNat) ∧
    Storage.Error.emptyBatch.message = "Invalid argument: batch_size must be greater than zero." ∧
    Error.emptyBatch.kind = .invalidRequest ∧ ∀ e, (Error.sql e).kind = .storage := by
  intro s stored served
  refine ⟨?_, fun hbatch => ⟨?_, ?_⟩, ⟨Int64.ofNat batch.toNat, rfl, toInt_batch batch⟩, by decide, rfl, fun _ => rfl⟩
  · rintro rfl
    exact ⟨rfl, rfl⟩
  · rw [show stored = (Storage.backfill config batch).run.replay script from rfl, run_storage_backfill hbatch]
    exact Dialogue.drains_drain ..
  · rw [show served = (backfillIndex config batch).run.replay script from rfl, run_backfillIndex hbatch]
    exact Dialogue.drains_drain ..

/-- A batch that is less than full, one that is more, and a failure behind the answer that ends the run; and a failure
    that ends it. -/
theorem backfill_follows_mixed_answers :
    (∃ total, ((backfillIndex "english" 5).run.replay
        ⟨[.affected 2, .affected 9, .rows [], .failed "late"], []⟩).result = .ok total ∧ total.toNat = 11) ∧
    ((Storage.backfill "english" 5).run.replay ⟨[.affected 5, .failed "gone", .affected 1], []⟩).statements =
      [Storage.backfillStatement "english" 5, Storage.backfillStatement "english" 5] ∧
    ((backfillIndex "english" 5).run.replay ⟨[.affected 5, .failed "gone", .affected 1], []⟩).result =
      .error (.sql (.refused "gone")) ∧
    ((backfillIndex "english" 0).run.replay ⟨[.affected 5], []⟩).statements = [] := by
  obtain ⟨-, hdrains, -⟩ :=
    backfill_follows_answers "english" 5 ⟨[.affected 2, .affected 9, .rows [], .failed "late"], []⟩
  obtain ⟨-, hfails, -⟩ := backfill_follows_answers "english" 5 ⟨[.affected 5, .failed "gone", .affected 1], []⟩
  obtain ⟨hempty, -⟩ := backfill_follows_answers "english" 0 ⟨[.affected 5], []⟩
  refine ⟨((hdrains (by decide)).2.finished 0 rfl).2 (by decide), (hfails (by decide)).1.statements,
    (hfails (by decide)).2.failed _ rfl, ?_⟩
  rw [(hempty rfl).2]
  rfl

end Service
end Lookout
