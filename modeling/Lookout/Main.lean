import Lookout.Cli.Message
import Lookout.Gateway
import Lookout.Settings.LogLevel

/-! The program. It reaches the database through a gateway, which holds two files ready in the directory that
    the variable `LOOKOUT_GATEWAY` names: `requests`, which is written, and `replies`, which is read. -/

namespace Lookout.Main

/-- The two ends of a gateway. -/
structure Link where
  requests : IO.FS.Handle
  replies : IO.FS.Handle

/-- Open the gateway, if there is one. -/
def Link.open? : IO (Option Link) := do
  match ← IO.getEnv "LOOKOUT_GATEWAY" with
  | none => return none
  | some dir =>
    try
      let requests ← IO.FS.Handle.mk (dir ++ "/requests") .write
      let replies ← IO.FS.Handle.mk (dir ++ "/replies") .read
      return some ⟨requests, replies⟩
    catch _ => return none

/-- Ask the gateway, and wait for its answer. Without a gateway there is none. -/
def ask (link : Option Link) (r : Gateway.Request) : IO (List Char) := do
  match link with
  | none => return []
  | some l =>
    l.requests.putStrLn (String.ofList r.line)
    l.requests.flush
    return (← l.replies.getLine).toList

def send (link : Option Link) (s : Sql.Statement) : IO Sql.Reply := return Gateway.reply (← ask link (.send s))

/-- The notices of a level are shown. -/
def isShown (shown : LogLevel) : NoticeLevel → Bool
  | .debug => LogLevel.debug.number ≤ shown.number
  | .info => LogLevel.info.number ≤ shown.number

/-- Show a notice on a line of its own, beside what is printed. -/
def showNotice (shown : LogLevel) (n : Notice) : IO Unit := do
  if isShown shown n.level then
    let fields := String.ofList (Json.Value.ofFields n.fields).compact
    (← IO.getStderr).putStrLn (n.level.name ++ " " ++ n.message ++ " " ++ fields)

/-- Send a statement until it changes nothing. -/
partial def drain (link : Option Link) (shown : LogLevel) (s : Sql.Statement) (notice : UInt64 → UInt64 → Notice)
    (total : UInt64) : IO (Except Sql.Failure UInt64) := do
  match (← send link s).executed with
  | .error e => return .error e
  | .ok n =>
    if n = 0 then return .ok total
    showNotice shown (notice n (total + n))
    drain link shown s notice (total + n)

/-- Carry out a dialogue. -/
def carryOut {α : Type} (link : Option Link) (shown : LogLevel) : Dialogue α → IO α
  | .done a => return a
  | .connect address next => do
    let r := Gateway.refusal (← ask link (.connect address))
    carryOut link shown (next r)
  | .send s next => do
    let r ← send link s
    carryOut link shown (next r)
  | .post s next => do
    let _ ← send link s
    carryOut link shown next
  | .note n next => do
    showNotice shown n
    carryOut link shown next
  | .pause millis next => do
    IO.sleep millis.toUInt32
    carryOut link shown next
  | .drain s notice next => do
    let r ← drain link shown s notice 0
    carryOut link shown (next r)

/-- The content of a file, if it can be read. -/
def contentOf? (path : String) : IO (Option ByteArray) := do
  try
    return some (← IO.FS.readBinFile path)
  catch _ => return none

/-- The notices that the settings ask for. -/
def shownBy (content : Option ByteArray) : LogLevel :=
  match Settings.ofContent content with
  | .ok settings => .ofFilter settings.logLevel.toList
  | .error _ => .off

/-- Run an invocation. The result is the exit code. -/
def runInvocation (i : Cli.Invocation) : IO UInt32 := do
  let content ← contentOf? i.config
  match ← carryOut (← Link.open?) (shownBy content) (Cli.run content i.request).run with
  | .ok text =>
    (← IO.getStdout).putStr (String.ofList text)
    return 0
  | .error e =>
    (← IO.getStderr).putStrLn e.message
    return 1

end Lookout.Main

def main (args : List String) : IO UInt32 := do
  match Lookout.Cli.Invocation.ofArgs (args.map String.toList) with
  | .ok i => Lookout.Main.runInvocation i
  | .error r =>
    if r.isAnswer then
      (← IO.getStdout).putStr r.message
      return 0
    else
      (← IO.getStderr).putStr r.message
      return 2
