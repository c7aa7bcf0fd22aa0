import Lookout.Cli.Invocation
import Lookout.Response.Json
import Lookout.Service.Index
import Lookout.Service.Search
import Lookout.Settings.File
import Lookout.Sql.Address
import Lookout.Storage.Schema

/-! What an invocation does: it reads the settings, connects to the database, and then runs the command. Text is
    printed only if all went well. -/

namespace Lookout.Cli

open Dialogue (Fallible)

/-- Why a run fails. -/
inductive RunError where
  | settings (e : Settings.LoadError)
  | storage (e : Storage.Error)
  | service (e : Service.Error)
  /-- A timestamp of the response has no text. -/
  | unprintable (e : Time.WriteError)
  deriving Repr, DecidableEq

/-- Open a connection to the database at an address. -/
def connect (dsn : String) : Fallible Sql.Failure Unit :=
  if Sql.Address.isReadable dsn.toList then Dialogue.connectPatiently dsn else throw .badAddress

/-- A value as it is printed. -/
def printed (v : Json.Value) : List Char := v.pretty ++ ['\n']

/-- The printed report about the events that were indexed. -/
def indexReport (n : UInt64) : List Char := printed (.ofFields [("indexed_count", .ofUInt64 n)])

/-- The printed response of a search. -/
def responseText (r : Response) : Except RunError (List Char) := (r.toJson.map printed).mapError .unprintable

namespace Request

/-- Run a command on an open connection. The result is the printed text. -/
def run (settings : Settings) : Request → Fallible RunError (List Char)
  | .initSchema => do
    Dialogue.mapError .storage Storage.Schema.ensure
    return []
  | .backfillIndex batch => do
    return indexReport (← Dialogue.mapError .service (Service.backfillIndex settings.search.textSearchConfig batch))
  | .search r => do
    let response ← Dialogue.mapError .service (Service.search settings.search r.query r.filters r.limit r.offset)
    ExceptT.mk (.done (responseText response))

end Request

/-- Run a request, given the content of the settings file, if there is one. -/
def run (content : Option ByteArray) (request : Request) : Fallible RunError (List Char) :=
  match Settings.ofContent content with
  | .error e => throw (.settings e)
  | .ok settings => do
    Dialogue.mapError (fun e => .storage (.sql e)) (connect settings.dsn)
    request.run settings

end Lookout.Cli
