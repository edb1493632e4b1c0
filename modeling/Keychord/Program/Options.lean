import Keychord.Config.File

/-!
# Command-line options

`--config` takes the argument after it, whatever that is; `--debug-log` takes the argument after it
unless that begins with a hyphen, and stands for `debug.log` without one; `--describe` takes none.
Of an option that is given twice the last counts. Other arguments are ignored.
-/

namespace Keychord.Program

/-- What the command line asks for. -/
structure Options where
  configPath : Option String := none
  debugLog : Option String := none
  describe : Bool := false
  deriving DecidableEq

namespace Options

/-- The log file when no other is named. -/
def defaultDebugLog : String := "debug.log"

/-- Whether an argument looks like an option. -/
def isHyphened (arg : String) : Bool := arg.toList.head? = some '-'

/-- Goes on with the options of further arguments. -/
def scan (env : Path.Environment) (o : Options) : List String → Options
  | [] => o
  | arg :: args =>
    if arg = "--config" then
      match args with
      | [] => o
      | path :: args => scan env { o with configPath := some (Path.expand env path) } args
    else if arg = "--debug-log" then
      match args with
      | [] => { o with debugLog := some defaultDebugLog }
      | path :: args =>
        if isHyphened path then
          scan env { o with debugLog := some defaultDebugLog } (path :: args)
        else scan env { o with debugLog := some (Path.expand env path) } args
    else if arg = "--describe" then scan env { o with describe := true } args
    else scan env o args

/-- The options that a list of arguments gives. -/
def parse (env : Path.Environment) (args : List String) : Options := scan env {} args

end Options

/-- Where the configuration comes from: a file that was named must be there, the file at the default
path need not be, and without that path there is nothing to read. -/
inductive ConfigPlace where
  | required (path : String)
  | optional (path : String)
  | nowhere
  deriving DecidableEq

namespace ConfigPlace

/-- The place that the options give. -/
def ofOptions (env : Path.Environment) (o : Options) : ConfigPlace :=
  match o.configPath, Config.defaultPath env with
  | some path, _ => .required path
  | none, some path => .optional path
  | none, none => .nowhere

/-- The path to look at. -/
def path? : ConfigPlace → Option String
  | .required path | .optional path => some path
  | .nowhere => none

/-- The configuration, from what is found at the path. -/
def load (place : ConfigPlace) (file : Config.File) : Except ConfigError Config :=
  match place with
  | .required path => Config.load path file
  | .optional path => (Config.loadOrDefault path file).1
  | .nowhere => .ok {}

end ConfigPlace

end Keychord.Program
