import Keychord.Interpreter

/-!
# Running commands

An executor keeps what it likes in its state. It is told the command before it has to run it, so
that the command can be repeated later, and it may report that a run has failed.
-/

namespace Keychord

/-- Something that runs commands of type `α` and keeps a state of type `σ`. -/
structure Executor (σ α : Type) where
  /-- Takes note of the command as the last one. -/
  setLast : α → σ → σ
  /-- Runs the command; the answer is why it failed, if it did. -/
  execute : α → σ → σ × Option String

variable {σ α : Type}

/-- Tells the command, then runs it. -/
def Executor.call (ex : Executor σ α) (command : α) (s : σ) : σ × Except Error Unit :=
  match ex.execute command (ex.setLast command s) with
  | (s', none) => (s', .ok ())
  | (s', some reason) => (s', .error (.execution reason))

/-- Reads one episode and runs its command. -/
def Interpreter.runEpisode (i : Interpreter) (store : Store α) (ex : Executor σ α) (s : σ)
    (script : Script) : σ × Read Error (Resolved α) :=
  let read := i.lookup store script
  match read.result with
  | .error _ => (s, read)
  | .ok resolved =>
    match ex.call resolved.command s with
    | (s', .ok ()) => (s', read)
    | (s', .error e) => (s', { read with result := .error e })

end Keychord
