import Lookout.Settings.Basic
import Lookout.Toml.Document
import Lookout.Toml.Record

/-! Settings in a TOML file. The section about searching may be left out, as may each of its fields. -/

namespace Lookout.Settings

open Toml (Value)

/-- The settings of a search that are not given. -/
def defaultSearch : Search.Settings := ⟨"english", .ofNat 10⟩

def searchOf? (v : Value) : Option Search.Settings := do
  match ← v.record? ["text_search_config", "rank_scale"] with
  | [config, scale] =>
    let config ← Value.orElse? defaultSearch.textSearchConfig Value.text? config
    let scale ← Value.orElse? defaultSearch.rankScale Value.binary64? scale
    some ⟨config, scale⟩
  | _ => none

def serviceOf? (v : Value) : Option String := do
  match ← v.record? ["log_level"] with
  | [level] => level.bind Value.text?
  | _ => none

def postgresOf? (v : Value) : Option (String × UInt32) := do
  match ← v.record? ["dsn", "pool_max_conns"] with
  | [dsn, conns] =>
    let dsn ← dsn.bind Value.text?
    let conns ← conns.bind Value.uint32?
    some (dsn, conns)
  | _ => none

def storageOf? (v : Value) : Option (String × UInt32) := do
  match ← v.record? ["postgres"] with
  | [postgres] => postgres.bind postgresOf?
  | _ => none

/-- The settings of a document, as they are written. -/
def ofDocument? (es : Toml.Entries) : Option Settings := do
  match ← Value.select? ["service", "storage", "search"] es with
  | [service, storage, search] =>
    let level ← service.bind serviceOf?
    let (dsn, conns) ← storage.bind storageOf?
    let search ← Value.orElse? defaultSearch searchOf? search
    some ⟨level, dsn, conns, search⟩
  | _ => none

/-- Why a file gives no settings. -/
inductive LoadError where
  /-- The file is not there, or is no text. -/
  | unreadable
  /-- The text is no document, or has not the fields of settings. -/
  | malformed
  | invalid (f : Fault)
  deriving Repr, DecidableEq

/-- The settings of a text. -/
def ofText (s : List Char) : Except LoadError Settings :=
  match (Toml.document? s).bind ofDocument? with
  | none => .error .malformed
  | some settings => settings.normalize.validate.mapError .invalid

/-- The settings of the content of a file, if there is one. -/
def ofContent (content : Option ByteArray) : Except LoadError Settings :=
  match content.bind String.fromUTF8? with
  | none => .error .unreadable
  | some s => ofText s.toList

end Lookout.Settings
