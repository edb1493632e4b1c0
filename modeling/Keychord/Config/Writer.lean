import Keychord.Config

/-!
# Writing a configuration

A configuration is written as a JSON object of its settings in their order, without blanks. In a
text only the quote, the backslash and control characters are escaped.
-/

namespace Keychord.Config

/-- A character as it stands in a JSON string. -/
def jsonChar (c : Char) : List Char :=
  match c with
  | '"' => ['\\', '"']
  | '\\' => ['\\', '\\']
  | '\x08' => ['\\', 'b']
  | '\x0c' => ['\\', 'f']
  | '\n' => ['\\', 'n']
  | '\r' => ['\\', 'r']
  | '\t' => ['\\', 't']
  | c =>
    if c.toNat < 0x20 then
      ['\\', 'u', '0', '0', Nat.digitChar (c.toNat / 16), Nat.digitChar (c.toNat % 16)]
    else [c]

/-- A text as a JSON string. -/
def jsonString (text : String) : List Char :=
  '"' :: text.toList.flatMap jsonChar ++ ['"']

/-- A setting as a member of an object. -/
def jsonMember (c : Config) (f : Field) : List Char :=
  jsonString f.name ++ ':' :: jsonString (c.get f)

/-- A configuration as a JSON object. -/
def toJson (c : Config) : String :=
  String.ofList ('{' :: List.intercalate [','] (Field.all.map c.jsonMember) ++ ['}'])

end Keychord.Config
