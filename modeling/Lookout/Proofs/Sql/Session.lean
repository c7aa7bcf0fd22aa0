import Lookout.Proofs.Dialogue.Exchanges
import Lookout.Proofs.Sql.Creation

/-! What the statements of one connection make of a database in which tables and indexes are created. What a transaction
    creates is its own until it is committed, and a lock that it takes is held until it ends. A statement that fails
    changes nothing. -/

namespace Lookout.Sql

open Dialogue (Exchange)

/-- What a statement does in a session. -/
inductive Action where
  | begin
  | commit
  | rollBack
  | lock (key : Int64)
  | create (c : Creation)
  deriving Repr, DecidableEq

/-- It creates something, so it needs the lock. -/
def Action.isCreation : Action → Bool
  | .create _ => true
  | _ => false

/-- The action of some tokens, with the values of the statement. -/
def Action.ofTokens? (params : List Param) : List String → Option Action
  | ["BEGIN"] => some .begin
  | ["COMMIT"] => some .commit
  | ["ROLLBACK"] => some .rollBack
  | ["SELECT", "pg_advisory_xact_lock", "(", key, ")"] =>
    match (placeholder? key.toList).bind (valueAt? params) with
    | some (.int8 key) => some (.lock key)
    | _ => none
  | ts => (Creation.ofTokens? ts).map .create

/-- What a statement does, read in its text. -/
def Statement.action? (s : Statement) : Option Action := Action.ofTokens? s.params (tokens s.sql.toList)

theorem Statement.action?_of_read? {s : Statement} {c : Creation} (h : Creation.read? s.sql.toList = some c) :
    s.action? = some (.create c) := by
  rw [Creation.read?] at h
  rw [action?, Action.ofTokens?.eq_def]
  split
  case h_5 => rw [h]; rfl
  all_goals simp_all [Creation.ofTokens?]

/-- The tables and indexes that there are, in the order in which they were created. -/
abbrev Catalog := List Creation

namespace Catalog

/-- Nothing is created twice under one name. -/
def add (catalog : Catalog) (c : Creation) : Catalog :=
  if catalog.any (·.name == c.name) then catalog else catalog ++ [c]

/-- The catalog after several creations. -/
def addAll (catalog : Catalog) (cs : List Creation) : Catalog := cs.foldl add catalog

end Catalog

/-- A transaction that is open. -/
structure Transaction where
  /-- What there is for the transaction. -/
  catalog : Catalog
  locks : List Int64

/-- One connection to the database. There may be a transaction on it. -/
structure Session where
  /-- What there is for all others. -/
  catalog : Catalog
  transaction : Option Transaction

namespace Session

/-- Outside a transaction each statement is one of its own, so what it creates is there for all, and its lock is gone. -/
def perform (d : Session) : Action → Session
  | .begin => ⟨d.catalog, some (d.transaction.getD ⟨d.catalog, []⟩)⟩
  | .commit => ⟨d.transaction.elim d.catalog Transaction.catalog, none⟩
  | .rollBack => ⟨d.catalog, none⟩
  | .lock key => ⟨d.catalog, d.transaction.map fun t => { t with locks := key :: t.locks }⟩
  | .create c =>
    match d.transaction with
    | none => ⟨d.catalog.add c, none⟩
    | some t => ⟨d.catalog, some { t with catalog := t.catalog.add c }⟩

theorem perform_commit (catalog : Catalog) (t : Transaction) : perform ⟨catalog, some t⟩ .commit = ⟨t.catalog, none⟩ := rfl

/-- The open transaction has this lock. -/
def holds (d : Session) (key : Int64) : Bool := d.transaction.any fun t => t.locks.contains key

/-- The state behind a statement and its answer. There is none if the statement cannot be read, or would create something
    while the connection does not hold the lock. -/
def step? (key : Int64) (d : Session) (x : Exchange) : Option Session :=
  x.statement.action?.bind fun a =>
    if a.isCreation && !d.holds key then none
    else if x.failure?.isSome then some d
    else some (d.perform a)

/-- The state behind statements and their answers, if there is one. -/
def run? (key : Int64) (d : Session) (xs : List Exchange) : Option Session := xs.foldlM (step? key) d

section
variable {key : Int64} {d : Session} {x : Exchange} {xs : List Exchange} {a : Action}

theorem step?_of_done (ha : x.statement.action? = some a) (hlock : a.isCreation = true → d.holds key = true)
    (hx : x.failure? = none) : step? key d x = some (d.perform a) := by
  rw [step?, ha, Option.bind_some, hx]
  cases hc : a.isCreation with
  | false => rfl
  | true => simp [hlock hc]

theorem step?_of_failed {e : Failure} (ha : x.statement.action? = some a)
    (hlock : a.isCreation = true → d.holds key = true) (hx : x.failure? = some e) : step? key d x = some d := by
  rw [step?, ha, Option.bind_some, hx]
  cases hc : a.isCreation with
  | false => rfl
  | true => simp [hlock hc]

theorem run?_nil (key : Int64) (d : Session) : run? key d [] = some d := rfl

theorem run?_cons {d' : Session} (h : step? key d x = some d') (xs : List Exchange) :
    run? key d (x :: xs) = run? key d' xs := by
  rw [run?, List.foldlM_cons, h]
  rfl

theorem run?_append {d' : Session} (h : run? key d xs = some d') (ys : List Exchange) :
    run? key d (xs ++ ys) = run? key d' ys := by
  rw [run?, List.foldlM_append]
  exact congrArg (· >>= _) h

end

section
variable {catalog : Catalog} {t : Transaction} {key : Int64} {xs : List Exchange}

/-- Creations that succeed in a transaction all take effect in it. -/
theorem run?_creations {cs : List Creation} (hkey : t.locks.contains key = true)
    (h : List.Forall₂ (fun x c => x.failure? = none ∧ x.statement.action? = some (.create c)) xs cs) :
    run? key ⟨catalog, some t⟩ xs = some ⟨catalog, some ⟨t.catalog.addAll cs, t.locks⟩⟩ := by
  induction h generalizing t with
  | nil => rfl
  | @cons x c xs cs hx _ ih =>
    have hheld : holds ⟨catalog, some t⟩ key = true := hkey
    rw [run?_cons (step?_of_done hx.2 (fun _ => hheld) hx.1)]
    exact ih (t := ⟨t.catalog.add c, t.locks⟩) hkey

/-- Creations in a transaction change nothing outside, whether they succeed or fail. -/
theorem exists_run?_creations (hkey : t.locks.contains key = true)
    (h : ∀ x ∈ xs, ∃ c, x.statement.action? = some (.create c)) :
    ∃ inside, run? key ⟨catalog, some t⟩ xs = some ⟨catalog, some ⟨inside, t.locks⟩⟩ := by
  induction xs generalizing t with
  | nil => exact ⟨t.catalog, rfl⟩
  | cons x xs ih =>
    obtain ⟨⟨c, hc⟩, hxs⟩ := List.forall_mem_cons.mp h
    have hheld : holds ⟨catalog, some t⟩ key = true := hkey
    cases hx : x.failure? with
    | none =>
      rw [run?_cons (step?_of_done hc (fun _ => hheld) hx)]
      exact ih (t := ⟨t.catalog.add c, t.locks⟩) hkey hxs
    | some e =>
      rw [run?_cons (step?_of_failed hc (fun _ => hheld) hx)]
      exact ih hkey hxs

end
end Session
end Lookout.Sql
