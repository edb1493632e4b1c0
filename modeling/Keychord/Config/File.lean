import Keychord.Config.Reader
import Keychord.Log.Note
import Keychord.Path

/-!
# The configuration file

Where the configuration file is by default, and what comes of reading it.
-/

namespace Keychord.Config

/-- Why nothing can be read at a path. -/
inductive FileFault where
  | notFound
  | permissionDenied
  | notDirectory
  | isDirectory
  | nameTooLong
  | linkLoop
  | other (reason : String)
  deriving DecidableEq

namespace FileFault

/-- The faults that the system numbers. -/
def numbered : List (FileFault × Nat × String) :=
  [(notFound, 2, "No such file or directory"), (permissionDenied, 13, "Permission denied"),
    (notDirectory, 20, "Not a directory"), (isDirectory, 21, "Is a directory"),
    (nameTooLong, 36, "File name too long"),
    (linkLoop, 40, "Too many levels of symbolic links")]

/-- The fault with a given number. -/
def ofNumber? (number : Nat) : Option FileFault :=
  (numbered.find? fun entry => entry.2.1 = number).map Prod.fst

/-- The reason as it is shown, with the number if there is one. -/
def message (f : FileFault) : String :=
  match f, numbered.lookup f with
  | _, some (number, reason) => reason ++ " (os error " ++ toString number ++ ")"
  | other reason, none => reason
  | _, none => ""

/-- Whether the fault says that there is nothing at the path. -/
def isAbsence : FileFault → Bool
  | notFound | notDirectory | nameTooLong | linkLoop => true
  | permissionDenied | isDirectory | other _ => false

end FileFault

/-- What is found at a path. -/
inductive File where
  | fault (reason : FileFault)
  | content (bytes : ByteArray)

/-- The path of the configuration file: in the directory that `XDG_CONFIG_HOME` gives, if that is
an absolute path, or else in `.config` of the home directory. -/
def defaultPath (env : Path.Environment) : Option String :=
  let directory :=
    match env.value "XDG_CONFIG_HOME" with
    | some d => if d.startsWith "/" then some d else none
    | none => none
  let directory := directory.or (env.home.map fun home => Path.join home ".config")
  directory.map fun d => Path.join (Path.join d "altre-chord") "config.json"

/-- Reads the configuration from what is found at a path. -/
def load (path : String) : File → Except ConfigError Config
  | .fault reason => .error (.invalidFile path reason.message)
  | .content bytes =>
    match String.fromUTF8? bytes with
    | none => .error (.invalidFile path "stream did not contain valid UTF-8")
    | some text =>
      match read text.toList with
      | .error f => .error (.invalidFile path (f.message text))
      | .ok c => c.validate.map fun _ => c

/-- Reads the configuration if there is a file at the path, and takes the default if not. -/
def loadOrDefault (path : String) (file : File) : Except ConfigError Config × List Log.Note :=
  match file with
  | .fault reason =>
    if reason.isAbsence then (.ok {}, [.configNotFound path]) else (load path file, [])
  | .content _ => (load path file, [])

end Keychord.Config
