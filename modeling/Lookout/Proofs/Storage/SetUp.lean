import Lookout.Proofs.Dialogue.Steps
import Lookout.Proofs.Storage.Schema

/-! How the schema is set up, whatever the database answers. The statements of the transaction are sent up to the first
    that fails, and a transaction that was begun is taken back then. So for all others the schema is there as a whole or
    not at all, and what creates it is done under the lock. -/

namespace Lookout.Storage.Schema

open Dialogue (Exchange Script)
open Sql (Catalog Creation Session)

/-! ### Statements up to the first that fails -/

section
variable {ss : List Sql.Statement} {xs : List Exchange} {e : Sql.Failure}

/-- The statements are sent in turn, each behind one that succeeded. -/
inductive Proceeds : List Sql.Statement → List Exchange → Except Sql.Failure Unit → Prop where
  | completed : Proceeds [] [] (.ok ())
  | failed {s : Sql.Statement} {rest : List Sql.Statement} {r : Sql.Reply} {e : Sql.Failure}
      (h : r.executed = .error e) : Proceeds (s :: rest) [⟨s, some r⟩] (.error e)
  | step {s : Sql.Statement} {rest : List Sql.Statement} {r : Sql.Reply} {n : UInt64} {xs : List Exchange}
      {result : Except Sql.Failure Unit} (h : r.executed = .ok n) (hrest : Proceeds rest xs result) :
      Proceeds (s :: rest) (⟨s, some r⟩ :: xs) result

theorem run_executeAll_cons (s : Sql.Statement) (rest : List Sql.Statement) :
    (executeAll (s :: rest)).run = .send s fun r =>
      match r.executed with
      | .error e => .done (.error e)
      | .ok _ => (executeAll rest).run := by
  refine congrArg (Dialogue.send s) (funext fun r => ?_)
  cases r <;> rfl

theorem proceeds_executeAll (ss : List Sql.Statement) (script : Script) :
    Proceeds ss ((executeAll ss).run.exchanges script) ((executeAll ss).run.replay script).result := by
  induction ss generalizing script with
  | nil => exact .completed
  | cons s rest ih =>
    rw [run_executeAll_cons, Dialogue.exchanges_send, Dialogue.result_send]
    cases hr : script.reply.1.executed with
    | error e => exact .failed hr
    | ok n => exact .step hr (ih _)

theorem Proceeds.of_ok (h : Proceeds ss xs (.ok ())) :
    xs.map (·.statement) = ss ∧ ∀ x ∈ xs, x.succeeded = true := by
  generalize hresult : Except.ok () = result at h
  induction h with
  | completed => simp
  | failed h => cases hresult
  | step h _ ih =>
    obtain ⟨hxs, hdone⟩ := ih hresult
    exact ⟨congrArg _ hxs, List.forall_mem_cons.mpr ⟨Exchange.succeeded_of_ok h, hdone⟩⟩

/-- The exchanges are those before the first failure, and the one that failed. -/
theorem Proceeds.of_error (h : Proceeds ss xs (.error e)) :
    ∃ before x rest, xs = before ++ [x] ∧ ss = before.map (·.statement) ++ x.statement :: rest ∧
      (∀ y ∈ before, y.succeeded = true) ∧ x.failure? = some e := by
  generalize hresult : Except.error e = result at h
  induction h with
  | completed => cases hresult
  | @failed s rest r e' h =>
    cases hresult
    exact ⟨[], ⟨s, some r⟩, rest, rfl, rfl, by simp, Exchange.failure?_of_error h⟩
  | @step s rest r n xs result h _ ih =>
    obtain ⟨before, x, rest, rfl, rfl, hdone, hx⟩ := ih hresult
    exact ⟨⟨s, some r⟩ :: before, x, rest, rfl, rfl,
      List.forall_mem_cons.mpr ⟨Exchange.succeeded_of_ok h, hdone⟩, hx⟩

end

/-! ### The course of the transaction -/

/-- The statements of the transaction, from the first to the last. -/
def transaction : List Sql.Statement := plain "BEGIN" :: (guarded ++ [plain "COMMIT"])

theorem transaction_eq :
    transaction = plain "BEGIN" :: lock :: (statements.map plain ++ [plain "COMMIT"]) := by
  unfold transaction guarded
  exact congrArg (plain "BEGIN" :: ·) List.cons_append

/-- The rollback of a transaction that is given up. Nothing waits for its answer. -/
def takenBack : Exchange := ⟨plain "ROLLBACK", none⟩

/-- The ways in which the transaction goes: to its end, to a first statement that fails, or to a later one. -/
inductive Course : List Exchange → Except Error Unit → Prop where
  | completed {xs : List Exchange} (h : xs.map (·.statement) = transaction) (hdone : ∀ x ∈ xs, x.succeeded = true) :
      Course xs (.ok ())
  | refused {x : Exchange} {e : Sql.Failure} (h : x.statement = plain "BEGIN") (hx : x.failure? = some e) :
      Course [x] (.error (.sql e))
  | undone {first x : Exchange} {before : List Exchange} {rest : List Sql.Statement} {e : Sql.Failure}
      (h : transaction = (first :: before).map (·.statement) ++ x.statement :: rest)
      (hdone : ∀ y ∈ first :: before, y.succeeded = true) (hx : x.failure? = some e) :
      Course (first :: before ++ [x, takenBack]) (.error (.sql e))

/-- What is done when the statements behind the first are through. -/
def close : Except Sql.Failure Unit → Dialogue (Except Error Unit)
  | .error e => rollBack e
  | .ok _ => .done (.ok ())

theorem run_ensure : ensure.run = .send (plain "BEGIN") fun r =>
    match r.executed with
    | .error e => .done (.error (.sql e))
    | .ok _ => (executeAll (guarded ++ [plain "COMMIT"])).run.bind close := by
  refine congrArg (Dialogue.send _) (funext fun r => ?_)
  cases r <;> rfl

theorem course_ensure (script : Script) : Course (ensure.run.exchanges script) (ensure.run.replay script).result := by
  rw [run_ensure, Dialogue.exchanges_send, Dialogue.result_send]
  cases hbegin : script.reply.1.executed with
  | error e => exact .refused rfl (Exchange.failure?_of_error hbegin)
  | ok n =>
    have hruns := proceeds_executeAll (guarded ++ [plain "COMMIT"]) script.reply.2
    simp only [Dialogue.exchanges_bind, Dialogue.replay_bind]
    cases hresult : ((executeAll (guarded ++ [plain "COMMIT"])).run.replay script.reply.2).result with
    | ok _ =>
      rw [hresult] at hruns
      obtain ⟨hstatements, hdone⟩ := hruns.of_ok
      refine .completed ?_ ?_
      · rw [close, Dialogue.exchanges, List.append_nil, List.map_cons, hstatements]
        rfl
      · rw [close, Dialogue.exchanges, List.append_nil]
        exact List.forall_mem_cons.mpr ⟨Exchange.succeeded_of_ok hbegin, hdone⟩
    | error e =>
      rw [hresult] at hruns
      obtain ⟨before, x, rest, hxs, hss, hdone, hx⟩ := hruns.of_error
      -- The transaction was begun, so it is the first statement that succeeded.
      let first : Exchange := ⟨plain "BEGIN", some script.reply.1⟩
      have htransaction : transaction = (first :: before).map (·.statement) ++ x.statement :: rest :=
        congrArg (plain "BEGIN" :: ·) hss
      rw [hxs, List.append_assoc]
      exact .undone htransaction (List.forall_mem_cons.mpr ⟨Exchange.succeeded_of_ok hbegin, hdone⟩) hx

/-! ### What the database makes of it -/

/-- The key of the lock. -/
def lockKey : Int64 := 7120115

theorem action?_begin : (plain "BEGIN").action? = some .begin := by decide +kernel

theorem action?_commit : (plain "COMMIT").action? = some .commit := by decide +kernel

theorem action?_rollBack : (plain "ROLLBACK").action? = some .rollBack := by decide +kernel

theorem action?_lock : lock.action? = some (.lock lockKey) := by decide +kernel

theorem exists_action? {s : Sql.Statement} (h : s ∈ statements.map plain) : ∃ c, s.action? = some (.create c) := by
  obtain ⟨sql, hsql, rfl⟩ := List.mem_map.mp h
  obtain ⟨i, hi, rfl⟩ := List.getElem_of_mem hsql
  exact ⟨_, action?_statements.get hi (action?_statements.length_eq ▸ hi)⟩

section
variable {catalog : Catalog} {t : Sql.Transaction} {d : Session} {a : Sql.Action} {x : Exchange} {xs before : List Exchange}
  {rest : List Sql.Statement} {e : Sql.Failure}

theorem run?_done {s : Sql.Statement} (hs : s.action? = some a) (hplain : a.isCreation = false) (h : x.statement = s)
    (hx : x.failure? = none) : Session.run? lockKey d (x :: xs) = Session.run? lockKey (d.perform a) xs := by
  have haction : x.statement.action? = some a := by rw [h, hs]
  exact Session.run?_cons (Session.step?_of_done haction (by simp [hplain]) hx) xs

/-- A statement that fails and creates nothing is passed over. -/
theorem run?_failed {s : Sql.Statement} (hs : s.action? = some a) (hplain : a.isCreation = false) (h : x.statement = s)
    (hx : x.failure? = some e) : Session.run? lockKey d (x :: xs) = Session.run? lockKey d xs := by
  have haction : x.statement.action? = some a := by rw [h, hs]
  exact Session.run?_cons (Session.step?_of_failed haction (by simp [hplain]) hx) xs

/-- Behind the first two statements the connection is in a transaction, and holds the lock. -/
theorem run?_opened {first second : Exchange} (hfirst : first.statement = plain "BEGIN") (hsecond : second.statement = lock)
    (hopen : first.failure? = none) (hlocked : second.failure? = none) (catalog : Catalog) :
    Session.run? lockKey ⟨catalog, none⟩ (first :: second :: xs) =
      Session.run? lockKey ⟨catalog, some ⟨catalog, [lockKey]⟩⟩ xs := by
  rw [run?_done action?_begin rfl hfirst hopen, run?_done action?_lock rfl hsecond hlocked]
  rfl

theorem run?_takenBack (t : Option Sql.Transaction) (catalog : Catalog) :
    Session.run? lockKey ⟨catalog, t⟩ [takenBack] = some ⟨catalog, none⟩ :=
  run?_done action?_rollBack rfl rfl rfl

theorem run?_completed (h : xs.map (·.statement) = transaction) (hdone : ∀ x ∈ xs, x.succeeded = true)
    (catalog : Catalog) :
    Session.run? lockKey ⟨catalog, none⟩ xs = some ⟨catalog.addAll creations, none⟩ := by
  rw [transaction_eq] at h
  obtain ⟨first, xs, rfl, hfirst, h⟩ := List.map_eq_cons_iff.mp h
  obtain ⟨second, xs, rfl, hsecond, h⟩ := List.map_eq_cons_iff.mp h
  obtain ⟨creating, final, rfl, hcreating, hfinal⟩ := List.map_eq_append_iff.mp h
  obtain ⟨x, rfl, hx⟩ := List.map_eq_singleton_iff.mp hfinal
  have hquiet : ∀ y ∈ first :: second :: (creating ++ [x]), y.failure? = none :=
    fun y hy => Exchange.failure?_of_succeeded (hdone y hy)
  have hactions : List.Forall₂ (fun y c => y.failure? = none ∧ y.statement.action? = some (.create c))
      creating creations := by
    refine (List.forall₂_and_left _ _).mpr ⟨fun y hy => hquiet y (by simp [hy]), ?_⟩
    have hread := action?_statements
    rw [← List.forall₂_map_left_iff (f := plain) (R := fun s c => s.action? = some (.create c)), ← hcreating,
      List.forall₂_map_left_iff] at hread
    exact hread
  rw [run?_opened hfirst hsecond (hquiet first (by simp)) (hquiet second (by simp)),
    Session.run?_append (Session.run?_creations rfl hactions), run?_done action?_commit rfl hx (hquiet x (by simp)),
    Session.perform_commit, Session.run?_nil]

/-- Behind the lock come creations, and the statement that fails is one of them or the last. Either way what they did
    stays inside the transaction. -/
theorem exists_run?_locked (hx : x.failure? = some e) (catalog : Catalog)
    (h : before.map (·.statement) ++ x.statement :: rest = statements.map plain ++ [plain "COMMIT"]) :
    ∃ t, Session.run? lockKey ⟨catalog, some ⟨catalog, [lockKey]⟩⟩ (before ++ [x]) = some ⟨catalog, some t⟩ := by
  have hcreating (ys : List Exchange) (hys : ys.map (·.statement) ⊆ statements.map plain) :
      ∃ inside, Session.run? lockKey ⟨catalog, some ⟨catalog, [lockKey]⟩⟩ ys =
        some ⟨catalog, some ⟨inside, [lockKey]⟩⟩ :=
    Session.exists_run?_creations rfl fun y hy => exists_action? (hys (List.mem_map_of_mem hy))
  rcases List.eq_nil_or_concat' rest with rfl | ⟨rest, s, rfl⟩
  · obtain ⟨hbefore, hlast⟩ := List.append_inj' h rfl
    obtain ⟨inside, hinside⟩ := hcreating before fun s hs => hbefore ▸ hs
    refine ⟨⟨inside, [lockKey]⟩, ?_⟩
    rw [Session.run?_append hinside, run?_failed action?_commit rfl (List.cons.inj hlast).1 hx]
    rfl
  · have hsplit : (before ++ [x]).map (·.statement) ++ rest ++ [s] = statements.map plain ++ [plain "COMMIT"] := by
      rw [← h, List.map_append, List.append_assoc, List.append_assoc]
      rfl
    obtain ⟨hinit, -⟩ := List.append_inj' hsplit rfl
    obtain ⟨inside, hinside⟩ := hcreating (before ++ [x]) fun s hs => hinit ▸ List.mem_append_left rest hs
    exact ⟨_, hinside⟩

/-- Whichever statement fails behind the first, nothing comes of those before it. -/
theorem run?_undone {first : Exchange} (h : transaction = (first :: before).map (·.statement) ++ x.statement :: rest)
    (hdone : ∀ y ∈ first :: before, y.succeeded = true) (hx : x.failure? = some e) (catalog : Catalog) :
    Session.run? lockKey ⟨catalog, none⟩ (first :: before ++ [x, takenBack]) = some ⟨catalog, none⟩ := by
  rw [transaction_eq, List.map_cons, List.cons_append] at h
  obtain ⟨hfirst, h⟩ := List.cons.inj h
  have hopen := Exchange.failure?_of_succeeded (hdone first List.mem_cons_self)
  cases before with
  | nil =>
    obtain ⟨hlock, -⟩ := List.cons.inj h
    rw [List.cons_append, run?_done action?_begin rfl hfirst.symm hopen, List.nil_append,
      run?_failed action?_lock rfl hlock.symm hx]
    exact run?_takenBack _ catalog
  | cons second before =>
    rw [List.map_cons, List.cons_append] at h
    obtain ⟨hsecond, h⟩ := List.cons.inj h
    have hlocked := Exchange.failure?_of_succeeded (hdone second (by simp))
    obtain ⟨t, ht⟩ := exists_run?_locked hx catalog h.symm
    have hsplit : first :: second :: before ++ [x, takenBack] = first :: second :: ((before ++ [x]) ++ [takenBack]) := by
      simp
    rw [hsplit, run?_opened hfirst.symm hsecond.symm hopen hlocked, Session.run?_append ht]
    exact run?_takenBack _ catalog

/-- Either all that the schema creates is there for others, or nothing new. No transaction is left open. -/
theorem Course.run? {result : Except Error Unit} (h : Course xs result) (catalog : Catalog) :
    Session.run? lockKey ⟨catalog, none⟩ xs =
      some ⟨if result.isOk then catalog.addAll creations else catalog, none⟩ := by
  cases h with
  | completed h hdone => exact run?_completed h hdone catalog
  | refused h hx =>
    rw [run?_failed action?_begin rfl h hx]
    rfl
  | undone h hdone hx => exact run?_undone h hdone hx catalog

end

/-! ### What is sent, and what is reported -/

/-- The statements of the transaction were sent up to the first that failed, and the result is what came of that. -/
structure SetsUp (xs : List Exchange) (result : Except Error Unit) : Prop where
  sends : ∃ sent, sent <+: transaction ∧
    (xs.map (·.statement) = sent ∨ xs.map (·.statement) = sent ++ [plain "ROLLBACK"])
  stops : ∀ {before x after e}, xs = before ++ x :: after → x.failure? = some e → after = [] ∨ after = [takenBack]
  takesBack : ∀ {before x after e}, xs = before ++ x :: after → x.failure? = some e → x.statement ∈ guarded →
    after = [takenBack]
  commits : ∀ {before x after}, xs = before ++ x :: after → x.statement = plain "COMMIT" →
    before.map (·.statement) = plain "BEGIN" :: guarded ∧ ∀ y ∈ before, y.succeeded = true
  succeeds : result = .ok () ↔ xs.map (·.statement) = transaction ∧ ∀ x ∈ xs, x.succeeded = true
  fails : ∀ {e}, result = .error e → ∃ before x after failure, xs = before ++ x :: after ∧
    (∀ y ∈ before, y.succeeded = true) ∧ x.failure? = some failure ∧ e = .sql failure

section
variable {xs sent before after : List Exchange} {x : Exchange} {e : Sql.Failure} {result : Except Error Unit}

theorem ne_of_mem_guarded {s : Sql.Statement} (h : s ∈ guarded) :
    s ≠ plain "BEGIN" ∧ s ≠ plain "COMMIT" ∧ s ≠ plain "ROLLBACK" := by
  have hother {a : Sql.Action} (hs : s.action? = some a) (ha : a ≠ .begin ∧ a ≠ .commit ∧ a ≠ .rollBack) :
      s ≠ plain "BEGIN" ∧ s ≠ plain "COMMIT" ∧ s ≠ plain "ROLLBACK" := by
    refine ⟨?_, ?_, ?_⟩
    · rintro rfl
      exact ha.1 (Option.some.inj (hs.symm.trans action?_begin))
    · rintro rfl
      exact ha.2.1 (Option.some.inj (hs.symm.trans action?_commit))
    · rintro rfl
      exact ha.2.2 (Option.some.inj (hs.symm.trans action?_rollBack))
  rw [guarded, List.mem_cons] at h
  rcases h with rfl | hcreates
  · exact hother action?_lock (by simp)
  · obtain ⟨c, hc⟩ := exists_action? hcreates
    exact hother hc (by simp)

/-- What was sent of the transaction. All of it succeeded but perhaps the last. -/
theorem Course.exists_sent (h : Course xs result) :
    ∃ sent : List Exchange, sent.map (·.statement) <+: transaction ∧ (xs = sent ∨ xs = sent ++ [takenBack]) ∧
      ∀ y ∈ sent.dropLast, y.succeeded = true := by
  cases h with
  | completed h hdone => exact ⟨xs, h ▸ List.prefix_refl _, .inl rfl, fun y hy => hdone y (List.mem_of_mem_dropLast hy)⟩
  | @refused x e h hx =>
    refine ⟨[x], ?_, .inl rfl, by simp⟩
    rw [List.map_singleton, h, transaction]
    exact List.cons_prefix_cons.mpr ⟨rfl, List.nil_prefix⟩
  | @undone first x before rest e h hdone hx =>
    refine ⟨first :: before ++ [x], ⟨rest, ?_⟩, .inr (by simp), ?_⟩
    · rw [h, List.map_append, List.append_assoc]
      rfl
    · rwa [List.dropLast_concat]

theorem Course.behind_failure (h : Course xs result) (hxs : xs = before ++ x :: after) (hx : x.failure? = some e) :
    after = [takenBack] ∨ after = [] ∧ x.statement = plain "BEGIN" := by
  have hfresh {ys : List Exchange} (hdone : ∀ y ∈ ys, y.succeeded = true) : x ∉ ys :=
    fun hmem => Exchange.not_succeeded hx (hdone x hmem)
  cases h with
  | completed _ hdone => exact absurd (hxs ▸ List.mem_append_right _ List.mem_cons_self) (hfresh hdone)
  | refused h _ =>
    rcases List.singleton_eq_append_iff.mp hxs with ⟨rfl, hsame⟩ | ⟨-, hnil⟩
    · obtain ⟨rfl, rfl⟩ := List.cons.inj hsame
      exact .inr ⟨rfl, h⟩
    · cases hnil
  | undone _ hdone _ =>
    have hback : x ∉ [takenBack] := by
      intro hmem
      rw [List.mem_singleton.mp hmem] at hx
      cases hx
    obtain ⟨-, -, hafter⟩ := (List.append_cons_inj_of_notMem (hfresh hdone) hback).mp hxs
    exact .inl hafter.symm

/-- Whatever stands before a statement of the transaction is of the transaction too. -/
theorem exists_eq_of_sent (hsent : xs = sent ∨ xs = sent ++ [takenBack]) (hxs : xs = before ++ x :: after)
    (hx : x ≠ takenBack) : ∃ rest, sent = before ++ x :: rest := by
  rcases hsent with rfl | hsent
  · exact ⟨after, hxs⟩
  · rcases List.eq_nil_or_concat' after with rfl | ⟨rest, last, rfl⟩
    · obtain ⟨-, hlast⟩ := List.append_inj' (hxs.symm.trans hsent) rfl
      exact absurd (List.cons.inj hlast).1 hx
    · have hsplit : (before ++ x :: rest) ++ [last] = sent ++ [takenBack] := by
        rw [← hsent, hxs, List.append_assoc, List.cons_append]
      exact ⟨rest, (List.append_inj' hsplit rfl).1.symm⟩

theorem Course.before_commit (h : Course xs result) (hxs : xs = before ++ x :: after) (hx : x.statement = plain "COMMIT") :
    before.map (·.statement) = plain "BEGIN" :: guarded ∧ ∀ y ∈ before, y.succeeded = true := by
  obtain ⟨sent, ⟨unsent, htransaction⟩, hends, hdone⟩ := h.exists_sent
  have hback : x ≠ takenBack := by
    rintro rfl
    exact absurd hx (by simp [takenBack, plain])
  obtain ⟨rest, rfl⟩ := exists_eq_of_sent hends hxs hback
  have hfresh : plain "COMMIT" ∉ plain "BEGIN" :: guarded :=
    List.not_mem_cons_of_ne_of_not_mem (by simp [plain]) fun hmem => (ne_of_mem_guarded hmem).2.1 rfl
  have hsame : (plain "BEGIN" :: guarded) ++ plain "COMMIT" :: [] =
      before.map (·.statement) ++ plain "COMMIT" :: (rest.map (·.statement) ++ unsent) := by
    rw [← hx, ← List.cons_append, ← List.append_assoc, ← List.map_cons, ← List.map_append, htransaction, hx, transaction,
      List.cons_append]
  obtain ⟨hbefore, -⟩ := (List.append_cons_inj_of_notMem hfresh (by simp)).mp hsame
  refine ⟨hbefore.symm, fun y hy => hdone y ?_⟩
  rw [List.dropLast_append_of_ne_nil (List.cons_ne_nil _ _)]
  exact List.mem_append_left _ hy

theorem Course.setsUp (h : Course xs result) : SetsUp xs result where
  sends := by
    obtain ⟨sent, hsent, hxs | hxs, -⟩ := h.exists_sent
    · exact ⟨_, hsent, .inl (congrArg _ hxs)⟩
    · exact ⟨_, hsent, .inr (by rw [hxs, List.map_append]; rfl)⟩
  stops hxs hx := (h.behind_failure hxs hx).symm.imp_left And.left
  takesBack hxs hx hguarded :=
    (h.behind_failure hxs hx).resolve_right fun hbegin => (ne_of_mem_guarded hguarded).1 hbegin.2
  commits := h.before_commit
  succeeds := by
    refine ⟨fun hok => ?_, fun ⟨_, hdone⟩ => ?_⟩
    · cases h with
      | completed h hdone => exact ⟨h, hdone⟩
      | refused => cases hok
      | undone => cases hok
    · cases h with
      | completed => rfl
      | refused _ hx => exact absurd (hdone _ (by simp)) (Exchange.not_succeeded hx)
      | @undone _ x _ _ _ _ _ hx => exact absurd (hdone x (by simp)) (Exchange.not_succeeded hx)
  fails := by
    intro e he
    cases h with
    | completed => cases he
    | refused _ hx =>
      cases he
      exact ⟨[], _, [], _, rfl, by simp, hx, rfl⟩
    -- Only a transaction that was begun is taken back.
    | undone _ hdone hx =>
      cases he
      exact ⟨_, _, [takenBack], _, rfl, hdone, hx, rfl⟩

end

/-- Setting up the schema, for all answers. The statements and their answers are those of the run, and the run keeps to
    the transaction. In the database that leaves all of the schema or nothing new, and never does the connection create
    anything without the lock. The statements are the pieces of the text, in order, and each is complete: it creates the
    table of cameras, the table of events or one of its indexes. -/
theorem ensure_atomic (script : Script) :
    let o := ensure.run.replay script
    let xs := ensure.run.exchanges script
    xs.map (·.statement) = o.statements ∧
    (∃ n, xs.filterMap (·.answer) ++ o.rest.replies = script.replies ++ List.replicate n Script.noReply) ∧
    SetsUp xs o.result ∧
    (∀ catalog, Session.run? lockKey ⟨catalog, none⟩ xs =
      some ⟨if o.result.isOk then catalog.addAll creations else catalog, none⟩) ∧
    (∃ pieces, [';'].intercalate pieces = text.toList ∧ (∀ piece ∈ pieces, ';' ∉ piece) ∧
      statements.map String.toList = (pieces.map Text.trim).filter (!·.isEmpty)) ∧
    statements.map (Creation.read? ·.toList) =
      (.table "cameras" cameraColumns :: .table "events" eventColumns :: eventIndexes.map .index).map some ∧
    ∀ s ∈ statements, ¬ directive.toList <:+: s.toList := by
  intro o xs
  have hcourse : Course xs o.result := course_ensure script
  exact ⟨Dialogue.map_statement_exchanges _ script, Dialogue.exists_answers_append_rest _ script, hcourse.setsUp,
    hcourse.run?, exists_pieces text.toList, reads_statements, fun s hs => without_directive hs⟩

/-- A lock that is refused ends it before anything is created. -/
example : (ensure.run.replay ⟨[.affected 0, .failed "busy"], []⟩).events =
    [.sent (plain "BEGIN"), .sent lock, .sent (plain "ROLLBACK")] := rfl

end Lookout.Storage.Schema
