/-!
# Modifiers

The four combinations of Control and Meta that a chord can carry, and how each is written before
a token.
-/

namespace Keychord

/-- What is held down together with a token. -/
inductive Modifier where
  | plain
  | metaKey
  | controlMeta
  | control
  deriving DecidableEq

namespace Modifier

/-- The marks before the token: Control is always written before Meta. -/
def text : Modifier → String
  | .plain => ""
  | .metaKey => "M-"
  | .controlMeta => "C-M-"
  | .control => "C-"

/-- The modifier with Control, with Meta, with both or with neither. -/
def ofFlags (control metaHeld : Bool) : Modifier :=
  match control, metaHeld with
  | false, false => .plain
  | false, true => .metaKey
  | true, true => .controlMeta
  | true, false => .control

end Modifier

end Keychord
