import Lookout.Proofs.Service.Batches
import Lookout.Proofs.Storage.Table
import Mathlib.Logic.Function.Basic

/-! Runs that index the events without a vector, side by side and between the statements of other clients. Each
    statement is carried out at once. The accounts of the runs are kept by every step: which events their statements
    turned, and that no event was turned twice. -/

namespace Lookout.Service

open Sql (Indexer Reply Statement)
open Storage (StoredEvent Table)

variable {ι ν : Type}

/-! ### Runs and other clients -/

/-- A run that indexes all events without a vector, in batches that are not empty. -/
structure Job where
  config : String
  batch : UInt32
  nonempty : batch ≠ 0

/-- The dialogue of a run, up to its result. -/
def Job.dialogue (job : Job) : Dialogue (Except Error UInt64) := (backfillIndex job.config job.batch).run

/-- The statement that a run sends again and again. -/
def Job.statement (job : Job) : Statement := Storage.backfillStatement job.config job.batch

/-- The table, and the answers that each run has got so far. -/
structure World (ι ν : Type) where
  table : Table ν
  replies : ι → List Reply

/-- What happens to the table in one step. -/
inductive Act (ι ν : Type) where
  /-- The next statement of a run. -/
  | run (i : ι)
  /-- Another client records these events. -/
  | insert (new : List (StoredEvent ν))
  /-- Another client indexes an event. -/
  | index (eventId : Int64) (config : String)

/-- One statement is carried out. -/
inductive Step [DecidableEq ι] (ix : Indexer ν) (jobs : ι → Job) : World ι ν → Act ι ν → World ι ν → Prop where
  | run {w : World ι ν} {i : ι} {s : Statement} {t : Table ν} {r : Reply}
      (hs : (jobs i).dialogue.awaited? (w.replies i) = some s) (ht : w.table.execute? ix s = some (t, r)) :
      Step ix jobs w (.run i) ⟨t, Function.update w.replies i (w.replies i ++ [r])⟩
  | insert {w : World ι ν} {new : List (StoredEvent ν)} {t : Table ν} (ht : w.table.Inserts new t) :
      Step ix jobs w (.insert new) ⟨t, w.replies⟩
  | index {w : World ι ν} {eventId : Int64} {config : String} {t : Table ν} {r : Reply}
      (ht : w.table.execute? ix (Storage.indexEventStatement eventId config) = some (t, r)) :
      Step ix jobs w (.index eventId config) ⟨t, w.replies⟩

/-- One step, with the table before and after it. -/
structure Entry (ι ν : Type) where
  act : Act ι ν
  before : Table ν
  after : Table ν

/-- From the table at the start, these acts in turn lead to the world. -/
inductive Execution [DecidableEq ι] (ix : Indexer ν) (jobs : ι → Job) (start : Table ν) :
    List (Entry ι ν) → World ι ν → Prop where
  | start : Execution ix jobs start [] ⟨start, fun _ => []⟩
  | step {es : List (Entry ι ν)} {w w' : World ι ν} {a : Act ι ν} (h : Execution ix jobs start es w)
      (hstep : Step ix jobs w a w') : Execution ix jobs start (es ++ [⟨a, w.table, w'.table⟩]) w'

/-- It is a step of this run. -/
def Act.isOf [DecidableEq ι] (i : ι) : Act ι ν → Bool
  | .run j => decide (j = i)
  | _ => false

/-- The events that a step records. -/
def Act.recorded : Act ι ν → List Int64
  | .insert new => new.map StoredEvent.eventId
  | _ => []

/-- The events that a step gives a vector. -/
def Entry.turned (e : Entry ι ν) : List Int64 := e.before.turned e.after

/-- What each statement of a run has turned. -/
def batches [DecidableEq ι] (i : ι) (es : List (Entry ι ν)) : List (List Int64) :=
  (es.filter (·.act.isOf i)).map Entry.turned

/-! ### One run -/

/-- A number of events as an answer tells it. -/
def countOf (ids : List Int64) : UInt64 := UInt64.ofNat ids.length

theorem Job.dialogue_eq (job : Job) :
    job.dialogue = .drain job.statement Notice.backfilled fun r => .done (r.mapError .sql) :=
  run_backfillIndex job.nonempty job.config

theorem Job.awaited? (job : Job) (counts : List UInt64) (s : Statement) :
    job.dialogue.awaited? (counts.map .affected) = some s ↔ s = job.statement ∧ ∀ n ∈ counts, n ≠ 0 := by
  rw [job.dialogue_eq]
  exact Dialogue.awaited?_drain _ _ _ _

theorem Job.ends_iff (job : Job) {replies : List Reply} (counts : List UInt64) (h : replies = counts.map .affected)
    (result : Except Error UInt64) :
    job.dialogue.Ends replies result ↔
      ∃ before, counts = before ++ [0] ∧ (∀ n ∈ before, n ≠ 0) ∧ result = .ok (before.foldl (· + ·) 0) := by
  rw [h, job.dialogue_eq]
  exact Dialogue.ends_drain _ _ _ _

/-! ### What a step keeps -/

/-- The table after the next statement of a run. -/
def Job.next (job : Job) (ix : Indexer ν) (t : Table ν) : Table ν :=
  t.index ix job.config (t.unindexed.take job.batch.toNat)

theorem Entry.turned_of_next {ix : Indexer ν} {e : Entry ι ν} {job : Job} (h : e.after = job.next ix e.before) :
    e.turned = e.before.unindexed.take job.batch.toNat := by
  rw [Entry.turned, h, Job.next, Table.turned_batch]

section
variable [DecidableEq ι] {ix : Indexer ν} {jobs : ι → Job} {start : Table ν} {es : List (Entry ι ν)} {w w' : World ι ν}

/-- A run goes on if each answer so far told of a change, and it indexes its batch. -/
theorem step_run_iff {i : ι} (counts : List UInt64) (hcounts : w.replies i = counts.map .affected) :
    Step ix jobs w (.run i) w' ↔ (∀ n ∈ counts, n ≠ 0) ∧ w' = ⟨(jobs i).next ix w.table,
      Function.update w.replies i
        (w.replies i ++ [.affected (countOf (w.table.unindexed.take (jobs i).batch.toNat))])⟩ := by
  have hexecute := w.table.execute?_backfillStatement ix (jobs i).config (jobs i).batch
  constructor
  · rintro (⟨hs, ht⟩ | _ | _)
    rw [hcounts, Job.awaited?] at hs
    obtain ⟨rfl, hne⟩ := hs
    rw [Job.statement, hexecute] at ht
    cases ht
    exact ⟨hne, rfl⟩
  · rintro ⟨hne, rfl⟩
    exact .run (by rw [hcounts, Job.awaited?]; exact ⟨rfl, hne⟩) hexecute

/-- What a log says of the table that it leads to: the answers of each run, and where the events without a vector have
    gone. -/
structure Accounts (ix : Indexer ν) (jobs : ι → Job) (start : Table ν) (es : List (Entry ι ν)) (w : World ι ν) :
    Prop where
  replies : ∀ i, w.replies i = ((batches i es).map countOf).map .affected
  next : ∀ e ∈ es, ∀ i, e.act = .run i → e.after = (jobs i).next ix e.before
  going : ∀ i, ∀ n ∈ ((batches i es).map countOf).dropLast, n ≠ 0
  balance : (start.unindexed ++ es.flatMap (·.act.recorded)).Perm (es.flatMap Entry.turned ++ w.table.unindexed)
  indexed : ∀ id ∈ es.flatMap Entry.turned, id ∈ w.table.indexed
  nodup : (es.flatMap Entry.turned).Nodup

theorem accounts_start : Accounts ix jobs start [] ⟨start, fun _ => []⟩ where
  replies _ := rfl
  next _ he := by cases he
  going _ _ hn := by cases hn
  balance := by simp
  indexed _ hid := by cases hid
  nodup := List.nodup_nil

theorem Accounts.grows (h : Accounts ix jobs start es w) {a : Act ι ν} (hstep : Step ix jobs w a w') :
    w.table.Grows a.recorded w'.table := by
  cases hstep with
  | insert ht => exact ht.grows
  | @index eventId config t r ht =>
    rw [Table.execute?_indexEventStatement] at ht
    cases ht
    exact Table.grows_index ..
  | @run i s t r hs ht =>
    obtain ⟨-, heq⟩ := (step_run_iff _ (h.replies i)).mp (.run hs ht)
    obtain rfl : t = (jobs i).next ix w.table := congrArg World.table heq
    exact Table.grows_index ..

theorem Accounts.batches_run (h : Accounts ix jobs start es w) {i : ι} (hstep : Step ix jobs w (.run i) w') :
    batches i (es ++ [⟨.run i, w.table, w'.table⟩]) =
      batches i es ++ [w.table.unindexed.take (jobs i).batch.toNat] := by
  obtain ⟨-, rfl⟩ := (step_run_iff _ (h.replies i)).mp hstep
  have hown : (Act.run i : Act ι ν).isOf i = true := by simp [Act.isOf]
  have hturned : (⟨.run i, w.table, (jobs i).next ix w.table⟩ : Entry ι ν).turned = _ := Entry.turned_of_next rfl
  simp [batches, hown, hturned]

/-- The answers of a run are the numbers of events that its statements turned, and all but the last are above
    zero. -/
theorem Accounts.replies_step (h : Accounts ix jobs start es w) {a : Act ι ν} (hstep : Step ix jobs w a w') (i : ι) :
    w'.replies i = ((batches i (es ++ [⟨a, w.table, w'.table⟩])).map countOf).map .affected ∧
      ∀ n ∈ ((batches i (es ++ [⟨a, w.table, w'.table⟩])).map countOf).dropLast, n ≠ 0 := by
  have hother : a.isOf i = false → batches i (es ++ [⟨a, w.table, w'.table⟩]) = batches i es := by
    intro ha
    simp [batches, ha]
  cases hstep with
  | insert ht =>
    rw [hother rfl]
    exact ⟨h.replies i, h.going i⟩
  | index ht =>
    rw [hother rfl]
    exact ⟨h.replies i, h.going i⟩
  | @run j s t r hs ht =>
    by_cases hj : j = i
    · subst hj
      obtain ⟨hne, heq⟩ := (step_run_iff _ (h.replies j)).mp (.run hs ht)
      rw [h.batches_run (.run hs ht), List.map_append, List.map_append, congrArg World.replies heq]
      exact ⟨by simp [h.replies j], by simpa using hne⟩
    · have hnot : (Act.run j : Act ι ν).isOf i = false := by simp [Act.isOf, hj]
      rw [hother hnot]
      exact ⟨by simp [Function.update_of_ne (Ne.symm hj), h.replies i], h.going i⟩

theorem Accounts.step (h : Accounts ix jobs start es w) {a : Act ι ν} (hstep : Step ix jobs w a w') :
    Accounts ix jobs start (es ++ [⟨a, w.table, w'.table⟩]) w' := by
  have hgrows := h.grows hstep
  have hflat : (es ++ [(⟨a, w.table, w'.table⟩ : Entry ι ν)]).flatMap Entry.turned
      = es.flatMap Entry.turned ++ w.table.turned w'.table := by
    rw [List.flatMap_append, List.flatMap_singleton, Entry.turned]
  have hturned : ∀ id ∈ w.table.turned w'.table, id ∈ w.table.unindexed ∧ id ∈ w'.table.indexed :=
    fun id hid => Table.mem_turned.mp hid
  refine ⟨fun i => (h.replies_step hstep i).1, ?_, fun i => (h.replies_step hstep i).2, ?_, ?_, ?_⟩
  · intro e he i hact
    rcases List.mem_append.mp he with he | he
    · exact h.next e he i hact
    · obtain rfl := List.mem_singleton.mp he
      obtain rfl : a = .run i := hact
      obtain ⟨-, rfl⟩ := (step_run_iff _ (h.replies i)).mp hstep
      rfl
  · rw [hflat, List.flatMap_append, List.flatMap_singleton, ← List.append_assoc, List.append_assoc (es.flatMap _)]
    have hbefore := h.balance.append_right a.recorded
    rw [List.append_assoc (es.flatMap Entry.turned)] at hbefore
    exact hbefore.trans (hgrows.balance.append_left _)
  · rw [hflat]
    intro id hid
    rcases List.mem_append.mp hid with hid | hid
    · exact hgrows.indexed id (h.indexed id hid)
    · exact (hturned id hid).2
  -- A step turns only events without a vector, and those turned before have one.
  · rw [hflat, List.nodup_append]
    refine ⟨h.nodup, w.table.unindexed_nodup.filter _, ?_⟩
    rintro id hid _ hnew rfl
    exact (Table.mem_indexed.mp (h.indexed id hid)).2 (hturned id hnew).1

theorem Execution.accounts (h : Execution ix jobs start es w) : Accounts ix jobs start es w := by
  induction h with
  | start => exact accounts_start
  | step _ hstep ih => exact ih.step hstep

end

end Lookout.Service
