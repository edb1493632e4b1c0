import Keychord.Sequence.Parser

/-!
# Stores and keymaps

A store says of the description of a key sequence whether it is bound to a command, the beginning
of longer bound sequences, or unbound. A keymap is a store made by binding sequences one after the
other; no bound sequence is ever the beginning of another one. It is asked by text alone: beside the
table of bindings it keeps the descriptions of all sequences that bound sequences go on beyond.
-/

namespace Keychord

/-- What a description stands for. -/
inductive Binding (α : Type) where
  | command (command : α)
  | nested
  | unbound
  deriving DecidableEq

/-- Anything that can be asked what a description stands for. -/
abbrev Store (α : Type) := String → Binding α

/-- The commands by the descriptions of their sequences, in the order of the descriptions, and the
descriptions at which only longer sequences are bound. -/
structure Keymap (α : Type) where
  bindings : List (String × α) := []
  prefixes : List String := []

namespace Keymap

variable {α : Type}

/-- The keymap without bindings. -/
def empty : Keymap α := {}

def size (k : Keymap α) : Nat := k.bindings.length

def isEmpty (k : Keymap α) : Bool := k.bindings.isEmpty

/-- The descriptions of the bound sequences, in the order of their code points. -/
def descriptions (k : Keymap α) : List String := k.bindings.map Prod.fst

/-- Puts a command in its place, or into the place of the former command of the description. -/
def insertBinding (text : String) (command : α) : List (String × α) → List (String × α)
  | [] => [(text, command)]
  | (other, former) :: rest =>
    if other = text then (text, command) :: rest
    else if text < other then (text, command) :: (other, former) :: rest
    else (other, former) :: insertBinding text command rest

/-- The first bound description whose sequence begins with a given one. -/
def firstUnder? (k : Keymap α) (s : KeySequence) : Option String :=
  k.descriptions.find? fun text =>
    match KeySequence.parse text with
    | .ok t => t.startsWith s
    | .error _ => false

/-- The keymap with one more binding, in place of the former one of the sequence. -/
def withBinding (k : Keymap α) (s : KeySequence) (command : α) : Keymap α where
  bindings := insertBinding s.description command k.bindings
  prefixes := (s.ancestors.map KeySequence.description).foldr List.insert k.prefixes

/-- Refuses a sequence that a bound one goes on beyond, and one that goes on beyond a bound one. -/
def check (k : Keymap α) (s : KeySequence) : Except KeymapError Unit :=
  if s.description ∈ k.prefixes then
    .error (.prefixConflict ((k.firstUnder? s).getD "") s.description)
  else
    match (s.ancestors.map KeySequence.description).find? (· ∈ k.descriptions) with
    | some ancestor => .error (.prefixConflict s.description ancestor)
    | none => .ok ()

/-- Binds a sequence in a keymap, in place of its former command if it has one. -/
def bindM (description : String) (command : α) : ExceptT KeymapError (StateM (Keymap α)) Unit := do
  let s ← MonadExcept.ofExcept (KeySequence.parse description)
  MonadExcept.ofExcept ((← get).check s)
  modify fun k => k.withBinding s command

/-- Whether a binding is made, and the keymap as it stands then, be the binding made or not. -/
def tryBind (k : Keymap α) (description : String) (command : α) :
    Except KeymapError Unit × Keymap α :=
  (bindM description command).run.run k

/-- The keymap with one more binding, unless that is refused. -/
def bind (k : Keymap α) (description : String) (command : α) : Except KeymapError (Keymap α) :=
  let (made, k') := k.tryBind description command
  made.map fun _ => k'

/-- Makes bindings in their order, up to the first that is refused. -/
def ofList (bindings : List (String × α)) : Except KeymapError (Keymap α) :=
  bindings.foldlM (fun k b => k.bind b.1 b.2) empty

/-- A keymap as a store: it is asked by the description that the sequence of a text has. A text that
describes no sequence is unbound. -/
def resolve (k : Keymap α) : Store α := fun text =>
  match KeySequence.parse text with
  | .error _ => .unbound
  | .ok s =>
    match k.bindings.lookup s.description with
    | some command => .command command
    | none => if s.description ∈ k.prefixes then .nested else .unbound

end Keymap

end Keychord
