import Keychord.Text.Quoted

/-!
# Errors

What can go wrong while keys are read, bindings are made, a configuration is taken over or a
command is run. An error has a message of its own and, where it wraps the failure of one part, a
cause with the message of that part. Only an undefined key sequence leaves the reader of keys able
to go on.
-/

namespace Keychord

/-- Why a source gave no key. -/
inductive InputError where
  | closed
  | terminal (reason : String)
  | interrupted (key : String)
  deriving DecidableEq

/-- Why a description is no key sequence, or a binding is refused. -/
inductive KeymapError where
  | emptySequence
  | invalidDescription (description : String)
  | prefixConflict (sequence ancestor : String)
  deriving DecidableEq

/-- Why a configuration is refused. -/
inductive ConfigError where
  | invalidFile (path reason : String)
  | invalidValue (field value : String)
  | episodeInProgress
  | conflictingTriggers (first second token : String)
  deriving DecidableEq

/-- Everything that can end an episode, a command or a start-up. -/
inductive Error where
  | unresolved (sequence : String)
  | input (cause : InputError)
  | keymap (cause : KeymapError)
  | config (cause : ConfigError)
  | execution (reason : String)
  deriving DecidableEq

def InputError.message : InputError → String
  | .closed => "Input stream closed"
  | .terminal reason => "Terminal read failed: " ++ reason
  | .interrupted key => "Interrupted by " ++ key

def KeymapError.message : KeymapError → String
  | .emptySequence => "Empty key sequence"
  | .invalidDescription description => "Invalid key description: " ++ description
  | .prefixConflict sequence ancestor =>
    "Key sequence " ++ sequence ++ " starts with non-prefix key " ++ ancestor

def ConfigError.message : ConfigError → String
  | .invalidFile path reason => "Invalid configuration file: " ++ path ++ ": " ++ reason
  | .invalidValue field value => "Invalid value for " ++ field ++ ": " ++ Text.quote value
  | .episodeInProgress => "Configuration cannot change while an episode is in progress"
  | .conflictingTriggers first second token =>
    first ++ " and " ++ second ++ " both resolve to " ++ token

namespace Error

/-- The error's own message, which leaves the cause out. -/
def message : Error → String
  | .unresolved sequence => sequence ++ " is undefined"
  | .input _ => "Input source failed"
  | .keymap _ => "Keymap error"
  | .config _ => "Configuration error"
  | .execution reason => "Command execution failed: " ++ reason

/-- The message of the failure that the error wraps. -/
def cause : Error → Option String
  | .input e => some e.message
  | .keymap e => some e.message
  | .config e => some e.message
  | .unresolved _ | .execution _ => none

/-- Every error but an undefined key sequence is fatal. -/
def isFatal : Error → Bool
  | .unresolved _ => false
  | _ => true

/-- The key sequence that is undefined. -/
def unresolvedSequence : Error → Option String
  | .unresolved sequence => some sequence
  | _ => none

end Error

end Keychord
