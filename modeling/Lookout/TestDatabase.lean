import Lookout.Dialogue
import Lookout.Sql.Address

/-! Databases that live as long as one test. Such a database is made and dropped from another one on the same
    server. It is dropped also if the test fails; if that does not succeed, it is tried once more. -/

namespace Lookout

open Dialogue (Fallible)

structure TestDatabase where
  name : String
  /-- The database from which it was made, and from which it is dropped. -/
  admin : String
  deriving Repr, DecidableEq

namespace TestDatabase

/-- Why there is no database for a test, or why it is left over. -/
inductive Error where
  | badAddress
  /-- None of the other databases can be reached. The failure is that of the last one. -/
  | noAdmin (last : Option Sql.Failure)
  | notCreated (e : Sql.Failure)
  | unreachable (e : Sql.Failure)
  | notDropped (e : Sql.Failure)
  deriving Repr, DecidableEq

namespace Error

/-- What went wrong. -/
def summary : Error → String
  | .badAddress => "Failed to parse VIGIL_PG_DSN"
  | .noAdmin _ => "Failed to connect to an admin database"
  | .notCreated _ => "Failed to create test database"
  | .unreachable _ => "Failed to connect to admin database for cleanup"
  | .notDropped _ => "Failed to drop test database"

/-- The failure behind an error. -/
def cause : Error → Option Sql.Failure
  | .badAddress => some .badAddress
  | .noAdmin last => last
  | .notCreated e => some e
  | .unreachable e => some e
  | .notDropped e => some e

/-- The text of an error. -/
def message (e : Error) : String := e.summary ++ (e.cause.elim "" fun c => ": " ++ c.message) ++ "."

end Error

/-- How many connections a test may have at once. -/
def poolMaxConns : UInt32 := 2

/-- The name of a database that belongs to the test with this tag. -/
def nameFor (tag : String) : String := "vigil_test_" ++ tag

/-- The databases that are tried in turn to make others from. -/
def adminDatabases : List String := ["postgres", "template1"]

/-! ### Statements -/

/-- A name in quotes. -/
def quoted (name : String) : String := "\"" ++ name ++ "\""

def createStatement (name : String) : Sql.Statement := ⟨"CREATE DATABASE " ++ quoted name, []⟩

def dropStatement (name : String) : Sql.Statement := ⟨"DROP DATABASE IF EXISTS " ++ quoted name, []⟩

/-- The statement that ends all other sessions of a database. -/
def disconnectStatement (name : String) : Sql.Statement :=
  ⟨"SELECT pg_terminate_backend(pid)\n"
    ++ "FROM pg_stat_activity\n"
    ++ "WHERE datname = $1 AND pid <> pg_backend_pid()",
   [.text name]⟩

/-! ### Making and dropping -/

/-- Connect to the first of these databases that can be reached. The result is its name. -/
def connectFirst (last : Option Sql.Failure) : List String → Fallible Error String
  | [] => throw (.noAdmin last)
  | d :: rest => ExceptT.mk do
    match ← (Dialogue.connectTo d).run with
    | .ok _ => return .ok d
    | .error e => (connectFirst (some e) rest).run

/-- Make a database of this name on the server at an address. -/
def create (dsn name : String) : Fallible Error TestDatabase := do
  if !Sql.Address.isReadable dsn.toList then throw .badAddress
  let admin ← connectFirst none adminDatabases
  let _ ← Dialogue.mapError .notCreated (Dialogue.execute (createStatement name))
  return ⟨name, admin⟩

/-- Drop the database. Whether its other sessions could be ended does not matter. -/
def cleanUp (db : TestDatabase) : Fallible Error Unit := do
  Dialogue.mapError .unreachable (Dialogue.connectTo db.admin)
  ExceptT.mk do
    let _ ← (Dialogue.ask (disconnectStatement db.name) Sql.Reply.allRows).run
    return .ok ()
  let _ ← Dialogue.mapError .notDropped (Dialogue.execute (dropStatement db.name))

/-- Drop the database, whether that succeeds or not. -/
def abandon (db : TestDatabase) : Dialogue Unit := do
  let _ ← db.cleanUp.run

/-- Drop the database, and try once more if that fails. The error is that of the first attempt. -/
def dispose (db : TestDatabase) : Fallible Error Unit := ExceptT.mk do
  match ← db.cleanUp.run with
  | .ok _ => return .ok ()
  | .error e =>
    db.abandon
    return .error e

/-! ### Tests -/

/-- Why a test has no result. -/
inductive Failure (ε : Type) where
  | database (e : Error)
  | body (e : ε)
  deriving Repr, DecidableEq

/-- The result of a test: an error of its body is preferred to one about its database. -/
def result {ε α : Type} (body : Except ε α) (disposed : Except Error Unit) : Except (Failure ε) α :=
  match body, disposed with
  | .error e, _ => .error (.body e)
  | .ok _, .error e => .error (.database e)
  | .ok a, .ok _ => .ok a

/-- Run `body` with a database of its own. -/
def withDatabase {ε α : Type} (dsn name : String) (body : TestDatabase → Fallible ε α) : Fallible (Failure ε) α := do
  let db ← Dialogue.mapError .database (create dsn name)
  ExceptT.mk do
    let r ← (body db).run
    let disposed ← db.dispose.run
    return result r disposed

end TestDatabase
end Lookout
