import Keychord.Config
import Keychord.Modifier

/-!
# Reading a token

How a token is read depends on the triggers of the configuration and on whether it is the first of
its sequence. A trigger looks ahead to the next token and hands its modifier to that one; every
other token is taken with Control. The escape trigger stands for itself at the beginning, where
there is no Control to keep away.
-/

namespace Keychord

/-- What is to be done with a token. -/
inductive Reading where
  | apply (modifier : Modifier)
  | lookahead (modifier : Modifier)
  deriving DecidableEq

namespace Reading

/-- The modifier that the token gets, or that the next one will get. -/
def modifier : Reading → Modifier
  | .apply m => m
  | .lookahead m => m

/-- Whether one more key is needed. -/
def needsLookahead : Reading → Bool
  | .apply _ => false
  | .lookahead _ => true

end Reading

/-- How a token is read. Of triggers with the same token the escape goes before Meta, and Meta
before Control-Meta. -/
def Config.reading (c : Config) (token : String) (isFirst : Bool) : Reading :=
  if token = c.escapeToken then
    if isFirst then .apply .plain else .lookahead .plain
  else if token = c.metaToken then .lookahead .metaKey
  else if token = c.controlMetaToken then .lookahead .controlMeta
  else .apply .control

end Keychord
