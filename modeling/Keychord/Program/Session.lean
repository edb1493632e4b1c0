import Keychord.Program.Demo
import Keychord.Program.Options

/-!
# A session

A session starts with a configuration and a greeting, runs its loop over what the terminal sends and
ends when the input closes. A failure is reported with its causes.
-/

namespace Keychord.Program

/-! ## Reports -/

/-- A cause on lines of its own: the first line has the given mark before it, and the others are
indented as far. -/
def indented (mark margin cause : String) : String :=
  mark ++ ("\n" ++ margin).intercalate ((cause.toList.splitOn '\n').map String.ofList)

/-- The place of a cause in a report: several causes are numbered. -/
def causeLine (isOne : Bool) (number : Nat) (cause : String) : String :=
  if isOne then indented "    " "    " cause
  else
    let digits := toString number
    indented ("".pushn ' ' (5 - digits.length) ++ digits ++ ": ") "       " cause

/-- The report of a failure and the chain of its causes. -/
def report (failure : String) (causes : List String) : String :=
  let lines := causes.zipIdx.map fun (cause, n) => "\n" ++ causeLine (causes.length = 1) n cause
  "Error: " ++ failure ++ (if causes.isEmpty then "" else "\n\nCaused by:" ++ String.join lines) ++
    "\n"

/-- The report of an error by itself. -/
def reportError (e : Error) : String := report e.message e.cause.toList

/-- The report of an error that came up while something was done. -/
def reportContext (context : String) (e : Error) : String :=
  report context (e.message :: e.cause.toList)

/-! ## Sessions -/

/-- What a session works with. -/
structure Session where
  interpreter : Interpreter
  keymap : Keymap Command
  describe : Bool
  logger : Option Log.Logger

namespace Session

/-- The session that the options and the configuration give, or the report of why there is none. -/
def start (o : Options) (config : Except ConfigError Config) : Except String Session := do
  let config ← config.mapError fun e => reportContext "failed to load config" (.config e)
  let interpreter ← (Interpreter.ofConfig config).mapError fun e => reportError (.config e)
  let keymap ← Program.keymap.mapError fun e => reportError (.keymap e)
  let logger := o.debugLog.map fun path =>
    ({ filter := config.logFilter : Log.Logger }.withoutStderr).withFile path
  return { interpreter, keymap, describe := o.describe, logger }

/-- The greeting. -/
def greeting : Notification :=
  .info "altre-chord 0.1.0: C-g aborts a key sequence, C-c or ESC quits."

/-- The loop of the session. -/
def handler (s : Session) : Handler Screen Command :=
  if s.describe then describing else executing

/-- The loop at its beginning, with the greeting on the screen. -/
def state (s : Session) : Loop.State Screen :=
  s.interpreter.loopState (({} : Screen).notify greeting)

/-- One event of the terminal. -/
def step (s : Session) (state : Loop.State Screen) (event : Terminal.Event) :
    Loop.Move Screen × List Log.Note :=
  Loop.step s.handler s.keymap.resolve state event.item

/-- All that a session leaves behind: its exit code, what it wrote, and its notes. -/
structure Result where
  exitCode : UInt8
  stdout : String
  stderr : String
  notes : List Log.Note := []

/-- What a session leaves behind when its loop has stopped. -/
def Result.ofAnswer (answer : Except Error Unit) (screen : Screen) (notes : List Log.Note) :
    Result :=
  match answer with
  | .ok () => ⟨0, screen.output, "", notes⟩
  | .error e => ⟨1, screen.output, reportError e, notes⟩

/-- Runs a session over the events of the terminal. -/
def run (s : Session) (events : List Terminal.Event) : Result :=
  let (screen, read) := Loop.run s.handler s.keymap.resolve s.state (events.map (·.item))
  .ofAnswer read.result screen read.notes

end Session

end Keychord.Program
