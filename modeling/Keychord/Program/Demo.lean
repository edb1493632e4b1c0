import Keychord.Loop

/-!
# The demonstration keymap

Nine editor commands under chords, and a screen on which they are shown instead of being run: either
their names, with a mark where a command is repeated, or a line that describes the binding.
-/

namespace Keychord.Program

/-- The commands that are bound. -/
inductive Command where
  | saveBuffer
  | findFile
  | switchToBuffer
  | forwardWord
  | backwardWord
  | nextLine
  | previousLine
  | evalDefun
  | deleteBackwardChar
  deriving DecidableEq

def Command.name : Command → String
  | .saveBuffer => "save-buffer"
  | .findFile => "find-file"
  | .switchToBuffer => "switch-to-buffer"
  | .forwardWord => "forward-word"
  | .backwardWord => "backward-word"
  | .nextLine => "next-line"
  | .previousLine => "previous-line"
  | .evalDefun => "eval-defun"
  | .deleteBackwardChar => "delete-backward-char"

/-- The bindings of the demonstration. -/
def bindings : List (String × Command) :=
  [("C-x C-s", .saveBuffer),
    ("C-x C-f", .findFile),
    ("C-x b", .switchToBuffer),
    ("M-f", .forwardWord),
    ("M-b", .backwardWord),
    ("C-n", .nextLine),
    ("C-p", .previousLine),
    ("C-M-x", .evalDefun),
    ("C-DEL", .deleteBackwardChar)]

/-- The keymap of the demonstration. -/
def keymap : Except KeymapError (Keymap Command) := Keymap.ofList bindings

/-- What has been shown, with the last command and the one before it. -/
structure Screen where
  last : Option Command := none
  previous : Option Command := none
  output : String := ""

namespace Screen

/-- A line on a terminal in raw mode ends with a carriage return and a line feed. -/
def line (text : String) (s : Screen) : Screen := { s with output := s.output ++ text ++ "\r\n" }

/-- Shows a notification. -/
def notify (n : Notification) (s : Screen) : Screen := s.line n.message

/-- A command becomes the last one. -/
def setLast (c : Command) (s : Screen) : Screen := { s with previous := s.last, last := some c }

/-- Shows the command, and whether the command before it was the same. -/
def execute (c : Command) (s : Screen) : Screen :=
  s.line (if s.previous = some c then c.name ++ " (repeated)" else c.name)

/-- Shows which command a sequence runs. -/
def describe (r : Resolved Command) (s : Screen) : Screen :=
  s.line (r.sequence ++ " runs the command " ++ r.command.name)

end Screen

/-- Commands are shown and never fail. -/
def echo : Executor Screen Command where
  setLast := Screen.setLast
  execute c s := (s.execute c, none)

/-- The loop that shows commands as they are run. -/
def executing : Handler Screen Command := echo.handler Screen.notify

/-- To the loop that describes bindings, an error that is not fatal is no failure, and of the fatal
ones an interruption is none. -/
def describingConsequence (e : Error) : Loop.Consequence :=
  if !e.isFatal then .shown
  else
    match e with
    | .input .closed => .closed
    | .input (.interrupted _) => .shown
    | _ => .failed

/-- The loop that describes bindings. -/
def describing : Handler Screen Command where
  resolved r s := (s.describe r, .ok ())
  notify := Screen.notify
  consequence := describingConsequence

end Keychord.Program
