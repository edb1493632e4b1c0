import Keychord.Log.Logger
import Keychord.Terminal.Event

/-!
# Notes

What the reading of keys and of the configuration reports to the log while it works. Notes are
data: every function that reports gives them back beside its result, in the order in which they
arise.
-/

namespace Keychord.Log

/-- One thing worth reporting. -/
inductive Note where
  | episodeStarted
  | lookahead (token : String)
  | extended (sequence : String)
  | resolved (sequence : String)
  | prefixKey (sequence : String)
  | undefined (sequence : String)
  | aborted (echo : String)
  | configNotFound (path : String)
  | ignored (event : Terminal.Event)
  deriving DecidableEq

namespace Note

def level : Note → Level
  | .episodeStarted | .resolved _ | .aborted _ | .configNotFound _ => .debug
  | .lookahead _ | .extended _ | .prefixKey _ | .ignored _ => .trace
  | .undefined _ => .warn

def message : Note → String
  | .episodeStarted => "episode started"
  | .lookahead token => token ++ " requests one more key"
  | .extended sequence => "sequence extended to " ++ sequence
  | .resolved sequence => sequence ++ " resolved to a command"
  | .prefixKey sequence => sequence ++ " is a prefix key"
  | .undefined sequence => sequence ++ " is undefined"
  | .aborted echo => "episode aborted at " ++ Text.quote echo
  | .configNotFound path => "config file " ++ path ++ " not found, using defaults"
  | .ignored event => "ignored terminal event " ++ event.text

/-- The record of a note that is made at some place in the program, if that is known. -/
def record (n : Note) (file : Option String) (line : Option Nat) : Record where
  level := n.level
  message := n.message
  file := file
  line := line

end Note

end Keychord.Log
