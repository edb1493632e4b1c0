/-!
# Faults in JSON text

A fault has a cause and a place. The place is given by the text that was unread when the fault was
seen, and by the number of bytes past its beginning that count as seen. It is shown as a line,
counted from one, and a column, the number of bytes of the line before the place.
-/

namespace Keychord.Json

/-- What is wrong with a text. -/
inductive Cause where
  | endInList
  | endInObject
  | endInString
  | endInValue
  | expectedColon
  | expectedListCommaOrEnd
  | expectedObjectCommaOrEnd
  | expectedIdent
  | expectedValue
  | invalidEscape
  | invalidNumber
  | numberOutOfRange
  | controlCharacter
  | keyMustBeString
  | loneSurrogate
  | trailingComma
  | trailingCharacters
  | unfinishedSurrogatePair
  | invalidType (found expected : String)
  | duplicateField (name : String)
  deriving DecidableEq

def Cause.message : Cause → String
  | .endInList => "EOF while parsing a list"
  | .endInObject => "EOF while parsing an object"
  | .endInString => "EOF while parsing a string"
  | .endInValue => "EOF while parsing a value"
  | .expectedColon => "expected `:`"
  | .expectedListCommaOrEnd => "expected `,` or `]`"
  | .expectedObjectCommaOrEnd => "expected `,` or `\x7d`"
  | .expectedIdent => "expected ident"
  | .expectedValue => "expected value"
  | .invalidEscape => "invalid escape"
  | .invalidNumber => "invalid number"
  | .numberOutOfRange => "number out of range"
  | .controlCharacter => "control character (\\u0000-\\u001F) found while parsing a string"
  | .keyMustBeString => "key must be a string"
  | .loneSurrogate => "lone leading surrogate in hex escape"
  | .trailingComma => "trailing comma"
  | .trailingCharacters => "trailing characters"
  | .unfinishedSurrogatePair => "unexpected end of hex escape"
  | .invalidType found expected => "invalid type: " ++ found ++ ", expected " ++ expected
  | .duplicateField name => "duplicate field `" ++ name ++ "`"

/-- A cause with its place. -/
structure Fault where
  cause : Cause
  unread : List Char
  past : Nat
  deriving DecidableEq

/-- A fault that lies before the unread text. -/
def Fault.before (cause : Cause) (unread : List Char) : Fault := ⟨cause, unread, 0⟩

/-- A fault that lies in the next byte of the unread text. -/
def Fault.next (cause : Cause) (unread : List Char) : Fault := ⟨cause, unread, 1⟩

/-- The number of bytes of a text. -/
def byteSize (text : List Char) : Nat := text.foldl (fun size c => size + c.utf8Size) 0

/-- Line and column behind the given bytes. -/
def position (bytes : List UInt8) : Nat × Nat :=
  let newline : UInt8 := 10
  (bytes.count newline + 1, (bytes.reverse.takeWhile (· ≠ newline)).length)

/-- The message of a fault in a text: a place past the end of the text counts as the end. -/
def Fault.message (text : String) (f : Fault) : String :=
  let bytes := text.toUTF8.toList
  let seen := bytes.length - byteSize f.unread + f.past
  let (line, column) := position (bytes.take seen)
  f.cause.message ++ " at line " ++ toString line ++ " column " ++ toString column

end Keychord.Json
