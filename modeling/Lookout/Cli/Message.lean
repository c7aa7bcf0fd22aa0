import Lookout.Cli.Run

/-! What the command line says when there is nothing to be run, or when a run fails. -/

namespace Lookout.Cli

/-- How the program is called. -/
def usage : String :=
  "Usage: lookout [--config FILE] COMMAND [OPTIONS]\n"
    ++ "\n"
    ++ "Commands:\n"
    ++ "  search          Print the events that match, best first, as JSON\n"
    ++ "  backfill-index  Index the events that are not indexed yet\n"
    ++ "  init-schema     Create the tables and indexes that are missing\n"
    ++ "  help            Print this text\n"
    ++ "\n"
    ++ "Options of search: -q, --query TEXT, --camera ID, --severity LEVEL, --object-type TYPE,\n"
    ++ "  --reviewed BOOL, --start TIME, --end TIME, --limit COUNT, --offset COUNT\n"
    ++ "Options of backfill-index: --batch COUNT\n"

def versionText : String := "lookout 0.1.0\n"

namespace Refusal

/-- The text about arguments that are refused. -/
def message : Refusal → String
  | .help => usage
  | .version => versionText
  | .nothingGiven => usage
  | .missingCommand => "a command is missing\n"
  | .unknownCommand w => "unknown command: " ++ String.ofList w ++ "\n"
  | .unknownWord w => "unexpected argument: " ++ String.ofList w ++ "\n"
  | .missingValue o => "a value is missing for --" ++ o.name ++ "\n"
  | .unsuitableValue o v => "the value of --" ++ o.name ++ " cannot be " ++ String.ofList v ++ "\n"
  | .unreadableValue o v => "the value of --" ++ o.name ++ " cannot be read: " ++ String.ofList v ++ "\n"
  | .repeated o => "--" ++ o.name ++ " is given twice\n"
  | .needlessValue n v => "--" ++ String.ofList n ++ " takes no value: " ++ String.ofList v ++ "\n"

/-- The text answers the arguments, rather than finding fault with them. -/
def isAnswer : Refusal → Bool
  | .help => true
  | .version => true
  | _ => false

end Refusal

/-- The text of a failure. -/
def RunError.message : RunError → String
  | .settings .unreadable => "The settings cannot be read."
  | .settings .malformed => "The settings are no well-formed document, or lack a field."
  | .settings (.invalid f) => f.message
  | .storage e => e.message
  | .service e => e.message
  | .unprintable _ => "A timestamp of the response cannot be written."

end Lookout.Cli
