import Keychord.Error
import Keychord.Key
import Keychord.Log.Level

/-!
# Configurations

Three texts name the keys that trigger a modifier for the next key, a fourth the log level. A
configuration is valid when no trigger text is empty and no two triggers have the same token.
-/

namespace Keychord

/-- The texts that a user can set. -/
structure Config where
  literalEscape : String := " "
  metaTrigger : String := "g"
  controlMetaTrigger : String := "G"
  logLevel : String := "warn"
  deriving DecidableEq

/-- The settings of a configuration, in their order. -/
inductive Config.Field where
  | literalEscape
  | metaTrigger
  | controlMetaTrigger
  | logLevel
  deriving DecidableEq

namespace Config

/-- The name by which a setting is written. -/
def Field.name : Field → String
  | .literalEscape => "literal_escape"
  | .metaTrigger => "meta_trigger"
  | .controlMetaTrigger => "control_meta_trigger"
  | .logLevel => "log_level"

/-- All settings, in their order. -/
def Field.all : List Field := [.literalEscape, .metaTrigger, .controlMetaTrigger, .logLevel]

/-- The setting with a given name. -/
def Field.ofName? (name : String) : Option Field := all.find? fun f => f.name = name

/-- The text of a setting. -/
def get (c : Config) : Field → String
  | .literalEscape => c.literalEscape
  | .metaTrigger => c.metaTrigger
  | .controlMetaTrigger => c.controlMetaTrigger
  | .logLevel => c.logLevel

/-- The token that keeps Control away from the next one. -/
def escapeToken (c : Config) : String := tokenOfText c.literalEscape

/-- The token that gives Meta to the next one. -/
def metaToken (c : Config) : String := tokenOfText c.metaTrigger

/-- The token that gives Control and Meta to the next one. -/
def controlMetaToken (c : Config) : String := tokenOfText c.controlMetaTrigger

/-- The records that the configuration lets into the log. -/
def logFilter (c : Config) : Log.Filter := Log.Filter.ofName c.logLevel

/-- A trigger must have a text. -/
def requireText (c : Config) (f : Field) : Except ConfigError Unit :=
  if c.get f = "" then .error (.invalidValue f.name "") else .ok ()

/-- Two triggers must differ in their tokens. -/
def requireDistinct (c : Config) (f g : Field) : Except ConfigError Unit :=
  if tokenOfText (c.get f) = tokenOfText (c.get g) then
    .error (.conflictingTriggers f.name g.name (tokenOfText (c.get f)))
  else .ok ()

/-- The first fault of a configuration: an empty trigger, or else a pair of triggers that cannot be
told apart. -/
def validate (c : Config) : Except ConfigError Unit := do
  c.requireText .literalEscape
  c.requireText .metaTrigger
  c.requireText .controlMetaTrigger
  c.requireDistinct .literalEscape .metaTrigger
  c.requireDistinct .literalEscape .controlMetaTrigger
  c.requireDistinct .metaTrigger .controlMetaTrigger

end Config

end Keychord
