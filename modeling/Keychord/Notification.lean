import Keychord.Error

/-!
# Notifications

What is shown to the user for a while: a plain message for two seconds, an error for five. An
undefined key sequence is a warning, an interruption a piece of information, all else an error
that shows its cause.
-/

namespace Keychord

/-- How much a notification matters. -/
inductive Severity where
  | info
  | warning
  | error
  deriving DecidableEq

/-- A message with its severity and the seconds for which it is shown. -/
structure Notification where
  message : String
  severity : Severity
  seconds : Nat
  deriving DecidableEq

namespace Notification

/-- A piece of information. -/
def info (message : String) : Notification := ⟨message, .info, 2⟩

/-- How an error is shown. -/
def ofError (e : Error) : Notification :=
  match e with
  | .unresolved _ => ⟨e.message, .warning, 5⟩
  | .input (.interrupted key) => ⟨"Quit (" ++ key ++ ")", .info, 5⟩
  | .input cause => ⟨cause.message, .error, 5⟩
  | .keymap cause => ⟨cause.message, .error, 5⟩
  | .config cause => ⟨cause.message, .error, 5⟩
  | .execution _ => ⟨e.message, .error, 5⟩

/-- A notification has had its time when it is as old as it was to be shown. -/
def isExpired (n : Notification) (ageSeconds : Nat) : Bool := decide (n.seconds ≤ ageSeconds)

end Notification

end Keychord
