import Keychord.Error
import Keychord.Key
import Keychord.Log.Note
import Keychord.Terminal.Verdict

/-!
# Sources of keys

A script says what a source comes upon: keys, failures to give one, and terminal events that are
passed over. A script that is used up fails as closed, over and over. What is read of a script is
always a beginning of it, so a reader gives back the rest.
-/

namespace Keychord

/-- What a source comes upon. -/
inductive Item where
  | key (key : Key)
  | failure (cause : InputError)
  | ignored (event : Terminal.Event)
  deriving DecidableEq

/-- What a source comes upon, one thing after the other. -/
abbrev Script := List Item

/-- A terminal event as seen by a reader of keys. -/
def Terminal.Event.item (e : Terminal.Event) : Item :=
  match e.verdict with
  | .key k => .key k
  | .interrupt name => .failure (.interrupted name)
  | .close => .failure .closed
  | .ignore => .ignored e

/-- The keys of a script. -/
def Script.keys (s : Script) : List Key :=
  s.filterMap fun
    | .key k => some k
    | _ => none

theorem Script.keys_append (s t : Script) : (s ++ t).keys = s.keys ++ t.keys :=
  List.filterMap_append

/-- What reading from a script gave, what it left, and what it reported on the way. -/
structure Read (ε β : Type) where
  result : Except ε β
  rest : Script
  notes : List Log.Note := []

/-- A read after some notes were made. -/
def Read.after {ε β : Type} (notes : List Log.Note) (r : Read ε β) : Read ε β :=
  { r with notes := notes ++ r.notes }

/-- A script in the course of being read, with the number of keys read from it. -/
structure Source where
  unread : Script := []
  consumed : Nat := 0

namespace Source

/-- The number of keys that are left. -/
def remaining (s : Source) : Nat := s.unread.keys.length

/-- More to come upon, at the end. -/
def push (s : Source) (more : Script) : Source := { s with unread := s.unread ++ more }

/-- The source after a reader has left a rest of it. -/
def leave (s : Source) (rest : Script) : Source where
  unread := rest
  consumed := s.consumed + (s.unread.keys.length - rest.keys.length)

end Source

end Keychord
