import Keychord.Log.Level

/-!
# Records and where they go

A record is written as one line: its level and message, and at the two most detailed levels also
the place it comes from, if it tells both file and line. A logger writes the records that its
filter lets through to the standard error output, to a file, or to both.
-/

namespace Keychord.Log

/-- One report, with the place in the program that made it. -/
structure Record where
  level : Level
  message : String
  file : Option String := none
  line : Option Nat := none
  deriving DecidableEq

namespace Record

/-- The place of a record is shown only at the levels debug and trace. -/
def showsPlace (r : Record) : Bool := decide (Level.debug.rank ≤ r.level.rank)

/-- The text of a record, without the line feed that ends it. -/
def text (r : Record) : String :=
  let plain := r.level.name ++ ": " ++ r.message
  match r.file, r.line with
  | some file, some line =>
    if r.showsPlace then plain ++ " at " ++ file ++ ":" ++ toString line else plain
  | _, _ => plain

end Record

/-- A filter, and the outputs for the records that pass it. -/
structure Logger where
  filter : Filter
  toStderr : Bool := true
  file : Option String := none

namespace Logger

/-- A logger for development writes everything but traces to the standard error output. -/
def forDevelopment : Logger where
  filter := .upTo .debug

def withFilter (l : Logger) (filter : Filter) : Logger := { l with filter }

def withFile (l : Logger) (path : String) : Logger := { l with file := some path }

/-- On a terminal in raw mode the standard error output would spoil the screen. -/
def withoutStderr (l : Logger) : Logger := { l with toStderr := false }

/-- Whether a record is written at all. -/
def enabled (l : Logger) (r : Record) : Bool := l.filter.allows r.level

/-- What a record adds to each output of a logger. -/
def written (l : Logger) (r : Record) : String :=
  if l.enabled r then r.text ++ "\n" else ""

/-- What a record adds to the standard error output. -/
def writtenToStderr (l : Logger) (r : Record) : String :=
  if l.toStderr then l.written r else ""

/-- What a record adds to the file. -/
def writtenToFile (l : Logger) (r : Record) : String :=
  if l.file.isSome then l.written r else ""

/-- A file after a record: it is made when the first line is written to it. What it held before need
not be text. -/
def appendTo (l : Logger) (content : Option ByteArray) (r : Record) : Option ByteArray :=
  if l.file.isSome && l.enabled r then some (content.getD .empty ++ (l.written r).toUTF8)
  else content

/-- A file after a run of records. -/
def appendAll (l : Logger) (content : Option ByteArray) (records : List Record) :
    Option ByteArray :=
  records.foldl l.appendTo content

end Logger

end Keychord.Log
