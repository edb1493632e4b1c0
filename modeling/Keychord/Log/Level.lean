/-!
# Log levels

Levels are ordered by how much they let through: an error is the least, a trace the greatest. A
filter lets through every level up to its own, or none.
-/

namespace Keychord.Log

/-- How grave a record is. -/
inductive Level where
  | error
  | warn
  | info
  | debug
  | trace
  deriving DecidableEq

/-- Graver levels have smaller ranks. -/
def Level.rank : Level → Nat
  | .error => 1
  | .warn => 2
  | .info => 3
  | .debug => 4
  | .trace => 5

def Level.name : Level → String
  | .error => "ERROR"
  | .warn => "WARN"
  | .info => "INFO"
  | .debug => "DEBUG"
  | .trace => "TRACE"

/-- The greatest level that is let through, if any. -/
inductive Filter where
  | off
  | upTo (level : Level)
  deriving DecidableEq

namespace Filter

def name : Filter → String
  | .off => "OFF"
  | .upTo level => level.name

/-- Every filter, the strictest first. -/
def all : List Filter :=
  [.off, .upTo .error, .upTo .warn, .upTo .info, .upTo .debug, .upTo .trace]

/-- Whether records of a level pass. -/
def allows : Filter → Level → Bool
  | .off, _ => false
  | .upTo greatest, level => decide (level.rank ≤ greatest.rank)

/-- The filter with a given name; upper and lower case of the letters A to Z are not told
apart. -/
def ofName? (name : String) : Option Filter :=
  all.find? fun f => f.name.toList = name.toList.map Char.toUpper

/-- The filter with a given name; an unknown name stands for warnings. -/
def ofName (name : String) : Filter := (ofName? name).getD (.upTo .warn)

end Filter

end Keychord.Log
