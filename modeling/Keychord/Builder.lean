import Keychord.Reading
import Keychord.Sequence
import Keychord.Source

/-!
# Building a key sequence

A builder turns keys into chords one key at a time. Between a trigger and the token it looks ahead
to, it keeps the modifier that is pending.
-/

namespace Keychord

/-- The chords so far, and the modifier that the next token gets. -/
structure Builder where
  sequence : KeySequence := {}
  pending : Option Modifier := none
  deriving DecidableEq

namespace Builder

/-- What one key did. -/
inductive Step where
  | needsKey
  | appended (chord : Chord)
  deriving DecidableEq

/-- The builder after a key, what the key did, and what was reported. -/
structure Fed where
  builder : Builder
  step : Step
  notes : List Log.Note

/-- A chord is appended, and nothing is pending any more. -/
def append (b : Builder) (chord : Chord) : Fed :=
  let sequence := b.sequence.push chord
  ⟨{ sequence }, .appended chord, [.extended sequence.description]⟩

/-- Takes one key. A pending modifier goes to its token, whatever the token is. -/
def feed (b : Builder) (config : Config) (key : Key) : Fed :=
  match b.pending with
  | some modifier => b.append ⟨modifier, key.token⟩
  | none =>
    match config.reading key.token b.sequence.isEmpty with
    | .apply modifier => b.append ⟨modifier, key.token⟩
    | .lookahead modifier =>
      ⟨{ b with pending := some modifier }, .needsKey, [.lookahead key.token]⟩

/-- Reads keys until a chord is appended. A failure of the source leaves the builder as the keys
before it made it. -/
def extend (b : Builder) (config : Config) : Script → Builder × Read InputError Chord
  | [] => (b, ⟨.error .closed, [], []⟩)
  | .failure cause :: rest => (b, ⟨.error cause, rest, []⟩)
  | .ignored event :: rest =>
    let (b', read) := b.extend config rest
    (b', read.after [.ignored event])
  | .key key :: rest =>
    let fed := b.feed config key
    match fed.step with
    | .appended chord => (fed.builder, ⟨.ok chord, rest, fed.notes⟩)
    | .needsKey =>
      let (b', read) := fed.builder.extend config rest
      (b', read.after fed.notes)

end Builder

end Keychord
