import Keychord.Program.Session
import Keychord.Terminal.Input

/-!
# The command line

Reads the environment, the configuration file and the keys, and writes what the session says. The
standard input is a terminal in raw mode; its end closes the input.
-/

namespace Keychord.Program

/-- The environment, as far as the arguments and the default path can ask for it. No home directory
is on record: without `HOME` there is none. -/
def readEnvironment (args : List String) : IO Path.Environment := do
  let names := "HOME" :: "XDG_CONFIG_HOME" :: args.flatMap fun arg => Path.references arg.toList
  let mut values : List (String × String) := []
  for name in names do
    if name ≠ "" then
      if let some value ← IO.getEnv name then
        values := (name, value) :: values
  let found := values
  return .ofVariables (fun name => found.lookup name) none

/-- The fault with a system number, which some operations give with the opposite sign. -/
def systemFault (details : String) (code : UInt32) : Config.FileFault :=
  (Config.FileFault.ofNumber? code.toInt32.toInt.natAbs).getD (.other details)

/-- What is found at a path. -/
def readFile (path : String) : IO Config.File := do
  try
    return .content (← IO.FS.readBinFile path)
  catch
    | .noFileOrDirectory _ code details => return .fault (systemFault details code)
    | .inappropriateType _ code details => return .fault (systemFault details code)
    | .permissionDenied _ code details => return .fault (systemFault details code)
    | .invalidArgument _ code details => return .fault (systemFault details code)
    | e => return .fault (.other (toString e))

/-- Appends a text to a file; a file that cannot be written stays as it is. -/
def appendFile (path text : String) : IO Unit := do
  try
    let handle ← IO.FS.Handle.mk path .append
    handle.putStr text
  catch _ => return ()

/-- Logs the notes of a session, without the places that make them. -/
def logNotes (s : Session) (notes : List Log.Note) : IO Unit := do
  let some logger := s.logger | return ()
  let some path := logger.file | return ()
  for note in notes do
    let text := logger.writtenToFile (note.record none none)
    if text ≠ "" then
      appendFile path text

/-- Writes what has come onto the screen, and gives back the screen without it. -/
def flushScreen (screen : Screen) : IO Screen := do
  let out ← IO.getStdout
  out.putStr screen.output
  out.flush
  return { screen with output := "" }

/-- The text at the beginning of some bytes, and the bytes of a character that is not complete. -/
def splitText (bytes : ByteArray) : String × ByteArray :=
  let cuts := (List.range 4).map fun n => bytes.size - n
  match cuts.findSome? fun n => (String.fromUTF8? (bytes.extract 0 n)).map fun t => (t, n) with
  | some (text, n) => (text, bytes.extract n bytes.size)
  | none => ("", .empty)

/-- Takes events until the loop stops or there are no more. -/
def takeEvents (s : Session) (state : Loop.State Screen) :
    List Terminal.Event → IO (Loop.Move Screen)
  | [] => return .goOn state
  | event :: rest => do
    let (move, notes) := s.step state event
    logNotes s notes
    match move with
    | .goOn state => takeEvents s { state with inner := ← flushScreen state.inner } rest
    | .stop answer screen => return .stop answer (← flushScreen screen)

/-- Reads the terminal until the loop stops. -/
partial def serve (s : Session) (state : Loop.State Screen) (left : ByteArray) : IO UInt32 := do
  let bytes ← (← IO.getStdin).read 1024
  if bytes.isEmpty then
    return 0
  let (text, left) := splitText (left ++ bytes)
  match ← takeEvents s state (Terminal.events text.toList) with
  | .goOn state => serve s state left
  | .stop answer screen =>
    let result := Session.Result.ofAnswer answer screen []
    (← IO.getStderr).putStr result.stderr
    return result.exitCode.toUInt32

/-- Runs the program on the arguments of its command line. -/
def runProgram (args : List String) : IO UInt32 := do
  let env ← readEnvironment args
  let options := Options.parse env args
  let place := ConfigPlace.ofOptions env options
  let file ←
    match place.path? with
    | some path => readFile path
    | none => pure (.fault .notFound)
  match Session.start options (place.load file) with
  | .error text =>
    (← IO.getStderr).putStr text
    return 1
  | .ok s =>
    let screen ← flushScreen s.state.inner
    serve s { s.state with inner := screen } .empty

end Keychord.Program

def main (args : List String) : IO UInt32 := Keychord.Program.runProgram args
