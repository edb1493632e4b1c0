import Keychord.Text.Printable

/-!
# Quoted text

A text is quoted between double quotes, a character between single quotes. The quote mark in use
and the backslash are written after a backslash, a null, a tab, a line feed and a carriage return
by a letter or digit after it, and every other unprintable character as `\u{…}` with its code
point in lower case hexadecimal digits.
-/

namespace Keychord.Text

/-- The code point of a character between braces, in as few hexadecimal digits as it has. -/
def codePointEscape (c : Char) : List Char :=
  '\\' :: 'u' :: '{' :: Nat.toDigits 16 c.toNat ++ ['}']

/-- One character as it stands between two marks. -/
def quotedChar (mark c : Char) : List Char :=
  match c with
  | '\x00' => ['\\', '0']
  | '\t' => ['\\', 't']
  | '\n' => ['\\', 'n']
  | '\r' => ['\\', 'r']
  | '\\' => ['\\', '\\']
  | c =>
    if c = mark then ['\\', c]
    else if isPrintable c then [c]
    else codePointEscape c

/-- A text between double quotes. -/
def quote (text : String) : String :=
  String.ofList ('"' :: text.toList.flatMap (quotedChar '"') ++ ['"'])

/-- A character between single quotes. -/
def quoteChar (c : Char) : String :=
  String.ofList ('\x27' :: quotedChar '\x27' c ++ ['\x27'])

end Keychord.Text
