/-!
# Keys and their tokens

A raw key is a character or has a name. Its token is the text by which it stands in key
descriptions: a character stands for itself and a name for itself, but the space is `SPC` and
backspace is `DEL`.
-/

namespace Keychord

/-- A raw key, before any modifier is read into it. -/
inductive Key where
  | char (c : Char)
  | named (name : String)
  deriving DecidableEq

namespace Key

/-- The backspace key. -/
def backspace : Key := .named "backspace"

/-- A text of exactly one character is that character, any other text is a name. -/
def ofText (text : String) : Key :=
  match text.toList with
  | [c] => .char c
  | _ => .named text

/-- The token of a key. -/
def token : Key → String
  | .char c => if c = ' ' then "SPC" else String.singleton c
  | .named name => if name = "backspace" then "DEL" else name

end Key

/-- The token of the key that a text stands for. -/
def tokenOfText (text : String) : String := (Key.ofText text).token

end Keychord
