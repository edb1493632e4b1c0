import Keychord.Builder
import Keychord.Keymap

/-!
# Episodes

An episode reads keys into chords until the store knows a command for them or does not know them
at all. It is driven from outside, one key at a time; a key that comes after its end begins the
next episode.
-/

namespace Keychord

namespace Episode

/-- Where an episode stands, with the number of keys it has taken. -/
inductive Phase where
  | start
  | building (builder : Builder) (keys : Nat)
  | resolved (keys : Nat)
  | undefined (keys : Nat)
  deriving DecidableEq

/-- What a key did. -/
inductive Step (α : Type) where
  | pending
  | command (sequence : String) (command : α)
  | undefined (sequence : String)
  deriving DecidableEq

end Episode

/-- A configuration and where the reading under it stands. -/
structure Episode where
  config : Config := {}
  phase : Episode.Phase := .start
  deriving DecidableEq

namespace Episode

variable {α : Type}

/-- Whether an episode has begun and not ended. -/
def isBuilding (e : Episode) : Bool :=
  match e.phase with
  | .building _ _ => true
  | _ => false

/-- Whether an episode has ended by itself. -/
def isTerminal (e : Episode) : Bool :=
  match e.phase with
  | .resolved _ | .undefined _ => true
  | _ => false

/-- The number of keys taken by the episode that is going on or was the last to end. -/
def keysConsumed (e : Episode) : Nat :=
  match e.phase with
  | .start => 0
  | .building _ keys | .resolved keys | .undefined keys => keys

/-- The chords so far and what is pending: nothing, outside of an episode. -/
def builder (e : Episode) : Builder :=
  match e.phase with
  | .building b _ => b
  | _ => {}

/-- The chords so far as a text, and the pending modifier after them. -/
def echo (e : Episode) : String :=
  let text := e.builder.sequence.description
  match e.builder.pending with
  | none => text
  | some modifier => (if text = "" then text else text ++ " ") ++ modifier.text

/-- Another configuration, which must be valid, can be set between episodes only. -/
def setConfigM (config : Config) : ExceptT ConfigError (StateM Episode) Unit := do
  if (← get).isBuilding then
    throw .episodeInProgress
  MonadExcept.ofExcept config.validate
  modify fun e => { e with config }

/-- Whether a configuration is set, and the episode as it stands then, be the configuration set or
not. -/
def trySetConfig (e : Episode) (config : Config) : Except ConfigError Unit × Episode :=
  (setConfigM config).run.run e

/-- The episode with another configuration, unless that is refused. -/
def setConfig (e : Episode) (config : Config) : Except ConfigError Episode :=
  let (set, e') := e.trySetConfig config
  set.map fun _ => e'

/-- Breaks off the episode that is going on. -/
def abort (e : Episode) : Episode × List Log.Note :=
  ({ e with phase := .start }, if e.isBuilding then [.aborted e.echo] else [])

/-- The episode after a key, what the key did, and what was reported. -/
structure Fed (α : Type) where
  episode : Episode
  step : Step α
  notes : List Log.Note

/-- Asks the store about the chords that are there after `keys` keys. -/
def dispatch (config : Config) (store : Store α) (b : Builder) (keys : Nat) : Fed α :=
  let text := b.sequence.description
  match store text with
  | .command command => ⟨⟨config, .resolved keys⟩, .command text command, [.resolved text]⟩
  | .nested => ⟨⟨config, .building b keys⟩, .pending, [.prefixKey text]⟩
  | .unbound => ⟨⟨config, .undefined keys⟩, .undefined text, [.undefined text]⟩

/-- Takes one key. -/
def feed (e : Episode) (store : Store α) (key : Key) : Fed α :=
  let opening : List Log.Note := if e.isBuilding then [] else [.episodeStarted]
  let keys := (if e.isBuilding then e.keysConsumed else 0) + 1
  let fed := e.builder.feed e.config key
  match fed.step with
  | .needsKey =>
    ⟨⟨e.config, .building fed.builder keys⟩, .pending, opening ++ fed.notes⟩
  | .appended _ =>
    let answer := dispatch e.config store fed.builder keys
    { answer with notes := opening ++ fed.notes ++ answer.notes }

end Episode

end Keychord
