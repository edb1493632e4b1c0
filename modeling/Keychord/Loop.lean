import Keychord.Executor
import Keychord.Notification

/-!
# Loops over episodes

A loop reads episodes until the input closes. What is done with a command, and which errors are
shown to the user and do not stop the loop, is up to its handler. The loop that runs commands shows
undefined sequences and interruptions; every other failure stops it.
-/

namespace Keychord

/-- What an error that has ended an episode means for a loop: it is shown and the loop goes on, or
the input has closed, or the loop has failed. -/
inductive Loop.Consequence where
  | shown
  | closed
  | failed
  deriving DecidableEq

/-- What a loop with a state of type `σ` does. -/
structure Handler (σ α : Type) where
  /-- A command was found; an error stops the loop. -/
  resolved : Resolved α → σ → σ × Except Error Unit
  /-- There is something to show. -/
  notify : Notification → σ → σ
  /-- An episode has ended with an error. -/
  consequence : Error → Loop.Consequence
  /-- Every loop stops where the input closes. -/
  closes : consequence (.input .closed) = .closed := by rfl

namespace Loop

variable {σ α : Type}

/-- Where a loop stands between two items of its script. -/
structure State (σ : Type) where
  episode : Episode
  inner : σ

/-- A loop goes on from a new state, or stops with an answer. -/
inductive Move (σ : Type) where
  | goOn (state : State σ)
  | stop (answer : Except Error Unit) (inner : σ)

/-- What a loop does when an episode has ended. -/
def react (h : Handler σ α) (s : State σ) : Outcome α → Move σ
  | .ok resolved =>
    match h.resolved resolved s.inner with
    | (inner, .ok ()) => .goOn { s with inner }
    | (inner, .error e) => .stop (.error e) inner
  | .error e =>
    match h.consequence e with
    | .shown => .goOn { s with inner := h.notify (.ofError e) s.inner }
    | .closed => .stop (.ok ()) s.inner
    | .failed => .stop (.error e) s.inner

/-- What a loop does with one item of its script. -/
def step (h : Handler σ α) (store : Store α) (s : State σ) (item : Item) :
    Move σ × List Log.Note :=
  let turn := s.episode.take store item
  let s' : State σ := { s with episode := turn.episode }
  match turn.outcome with
  | none => (.goOn s', turn.notes)
  | some outcome => (react h s' outcome, turn.notes)

/-- Runs a loop over a script, to where it stops; a script that is used up has closed. -/
def run (h : Handler σ α) (store : Store α) (s : State σ) : Script → σ × Read Error Unit
  | [] => (s.inner, ⟨.ok (), [], []⟩)
  | item :: rest =>
    match step h store s item with
    | (.stop answer inner, notes) => (inner, ⟨answer, rest, notes⟩)
    | (.goOn s', notes) =>
      let (inner, read) := run h store s' rest
      (inner, read.after notes)

end Loop

/-- To a loop that runs commands, an undefined sequence or an interruption is no failure. -/
def Executor.consequence : Error → Loop.Consequence
  | .input .closed => .closed
  | .unresolved _ | .input (.interrupted _) => .shown
  | _ => .failed

/-- The loop that runs every command. -/
def Executor.handler {σ α : Type} (ex : Executor σ α) (notify : Notification → σ → σ) :
    Handler σ α where
  resolved r s := ex.call r.command s
  notify := notify
  consequence := consequence

/-- The same loop, with a count of the commands that went well. -/
def Handler.counting {σ α : Type} (h : Handler σ α) : Handler (σ × Nat) α where
  resolved r s :=
    match h.resolved r s.1 with
    | (inner, .ok ()) => ((inner, s.2 + 1), .ok ())
    | (inner, .error e) => ((inner, s.2), .error e)
  notify n s := (h.notify n s.1, s.2)
  consequence := h.consequence
  closes := h.closes

namespace Interpreter

variable {σ α : Type}

/-- A loop at the beginning of an episode. -/
def loopState (i : Interpreter) (inner : σ) : Loop.State σ := ⟨{ config := i.config }, inner⟩

/-- Reads and runs episodes until the input closes; the answer is the number of commands that were
run. -/
def runUntilClosed (i : Interpreter) (store : Store α) (ex : Executor σ α)
    (notify : Notification → σ → σ) (inner : σ) (script : Script) : σ × Read Error Nat :=
  let ((inner', count), read) :=
    Loop.run (ex.handler notify).counting store (i.loopState (inner, 0)) script
  (inner', { read with result := read.result.map fun _ => count })

end Interpreter

end Keychord
