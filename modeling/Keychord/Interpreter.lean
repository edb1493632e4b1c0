import Keychord.Episode

/-!
# Interpreting a script

An interpreter reads one episode after the other from a script: keys go to the episode until it
ends, and a failure of the source ends it as well. Every episode starts afresh. Its configuration is
the default one or one that `ofConfig` or `setConfig` has taken over, and these take only what is
valid.
-/

namespace Keychord

/-- The configuration that every episode starts with. -/
structure Interpreter where
  config : Config := {}
  deriving DecidableEq

/-- How an episode ended that has a command. -/
structure Resolved (α : Type) where
  sequence : String
  command : α
  keysConsumed : Nat
  deriving DecidableEq

/-- What an episode came to. -/
abbrev Outcome (α : Type) := Except Error (Resolved α)

variable {α : Type}

namespace Episode

/-- An episode after one item of a script: what it came to, if it ended there. -/
structure Turn (α : Type) where
  episode : Episode
  outcome : Option (Outcome α)
  notes : List Log.Note

/-- Takes one item of a script. After the end of an episode the next one stands at its start. -/
def take (e : Episode) (store : Store α) : Item → Turn α
  | .ignored event => ⟨e, none, [.ignored event]⟩
  | .failure cause => ⟨{ config := e.config }, some (.error (.input cause)), []⟩
  | .key key =>
    let fed := e.feed store key
    match fed.step with
    | .pending => ⟨fed.episode, none, fed.notes⟩
    | .command sequence command =>
      ⟨{ config := e.config }, some (.ok ⟨sequence, command, fed.episode.keysConsumed⟩), fed.notes⟩
    | .undefined sequence =>
      ⟨{ config := e.config }, some (.error (.unresolved sequence)), fed.notes⟩

/-- Reads a script to the end of the episode. -/
def finish (e : Episode) (store : Store α) : Script → Read Error (Resolved α)
  | [] => ⟨.error (.input .closed), [], []⟩
  | item :: rest =>
    let turn := e.take store item
    match turn.outcome with
    | some outcome => ⟨outcome, rest, turn.notes⟩
    | none => (turn.episode.finish store rest).after turn.notes

end Episode

namespace Interpreter

/-- The interpreter for a configuration, if that is valid. -/
def ofConfig (config : Config) : Except ConfigError Interpreter := do
  config.validate
  return { config }

/-- Takes over another configuration, if that is valid. -/
def setConfigM (config : Config) : ExceptT ConfigError (StateM Interpreter) Unit := do
  MonadExcept.ofExcept config.validate
  set ({ config } : Interpreter)

/-- Whether a configuration is taken over, and the interpreter as it stands then. -/
def trySetConfig (i : Interpreter) (config : Config) : Except ConfigError Unit × Interpreter :=
  (setConfigM config).run.run i

/-- The interpreter with another configuration, unless that is refused. -/
def setConfig (i : Interpreter) (config : Config) : Except ConfigError Interpreter :=
  let (set, i') := i.trySetConfig config
  set.map fun _ => i'

/-- Reads one episode to its end, without running the command. -/
def lookup (i : Interpreter) (store : Store α) (script : Script) : Read Error (Resolved α) :=
  Episode.finish { config := i.config } store script

end Interpreter

end Keychord
