import Keychord.Decimal.Style
import Keychord.Json.Literal

/-!
# Numbers

Numbers are read to be named in a message and otherwise skipped. A number without fraction and
exponent is an integer when it fits 64 bits, signed if it is negative. Any other number is double
precision: its digits are a whole significand of 64 bits as far as they fit, which is multiplied
or divided by a power of ten. Digits that do not fit count as zeros before the point and are left
out after it.
-/

namespace Keychord.Json

/-- A number as it is named in a message. -/
inductive Number where
  | natural (n : Nat)
  | negative (n : Nat)
  | floating (x : Float)

/-- Doubles are named with their point in place for the exponents from -5 to 15. -/
def doubleStyle : Decimal.Style := ⟨-5, 15⟩

/-- The text of a double. -/
def doubleText (x : Float) : String :=
  let bits := x.toBits
  (if bits.toNat / Nat.pow 2 63 = 1 then "-" else "") ++
    doubleStyle.write (Binary.ofBits bits).shortest

def Number.text : Number → String
  | .natural n => "integer `" ++ toString n ++ "`"
  | .negative n => "integer `-" ++ toString n ++ "`"
  | .floating x => "floating point `" ++ doubleText x ++ "`"

def isDigit (c : Char) : Bool := '0' ≤ c && c ≤ '9'

def digitValue (c : Char) : Nat := c.toNat - '0'.toNat

/-- The digits at the beginning of a text, and the rest. -/
def spanDigits (text : List Char) : List Char × List Char :=
  (text.takeWhile isDigit, text.dropWhile isDigit)

/-- Goes on with a number as far as it fits 64 bits, and tells how many digits do not. -/
def foldDigits (n : Nat) : List Char → Nat × Nat
  | [] => (n, 0)
  | d :: digits =>
    let n' := n * 10 + digitValue d
    if n' < Nat.pow 2 64 then foldDigits n' digits else (n, digits.length + 1)

/-- `x` over `10 ^ e`. What is below `10 ^ -308` is divided twice; the division ends for any double
that is not infinite, since a third one would give zero. -/
def divideByPower (x : Float) (e : Nat) : Nat → Float
  | 0 => 0
  | steps + 1 =>
    if e ≤ 308 then x / Float.ofScientific 1 false e
    else divideByPower (x / Float.ofScientific 1 false 308) (e - 308) steps

/-- The double `significand · 10 ^ e`, unless it is too large. -/
def scaleDouble (significand : Nat) (e : Int) : Option Float :=
  let x := Float.ofScientific significand false 0
  if e < 0 then some (divideByPower x e.natAbs 4)
  else if significand = 0 then some 0
  else if 308 < e then none
  else
    let y := x * Float.ofScientific 1 false e.toNat
    if y.isInf then none else some y

/-- A double with its sign, read up to a given rest. -/
def finishDouble (isNegative : Bool) (significand : Nat) (e : Int) (rest : List Char) :
    Except Fault (Number × List Char) :=
  match scaleDouble significand e with
  | some x => .ok (.floating (if isNegative then -x else x), rest)
  | none => .error (.before .numberOutOfRange rest)

/-- Takes the sign of an exponent: whether it is negative. -/
def readSign : List Char → Bool × List Char
  | '+' :: text => (false, text)
  | '-' :: text => (true, text)
  | text => (false, text)

/-- The greatest exponent that is taken at its value. -/
def greatestExponent : Nat := Nat.pow 2 31 - 1

/-- Goes on with an exponent as long as it is at most the greatest one; the answer has no exponent
when a digit went beyond that, and the text after that digit. -/
def foldExponent (e : Nat) : List Char → Option Nat × List Char
  | [] => (some e, [])
  | c :: text =>
    if isDigit c then
      let e' := e * 10 + digitValue c
      if e' ≤ greatestExponent then foldExponent e' text else (none, text)
    else (some e, c :: text)

/-- Takes an exponent after its letter. -/
def readExponent (isNegative : Bool) (significand : Nat) (start : Int) (text : List Char) :
    Except Fault (Number × List Char) :=
  let (down, text) := readSign text
  match text with
  | [] => .error (.before .endInValue [])
  | c :: rest =>
    if !isDigit c then .error (.next .invalidNumber text)
    else
      match foldExponent (digitValue c) rest with
      | (some e, rest) =>
        finishDouble isNegative significand (if down then start - e else start + e) rest
      | (none, rest) =>
        if significand ≠ 0 && !down then .error (.before .numberOutOfRange rest)
        else .ok (.floating (if isNegative then -0.0 else 0.0), (spanDigits rest).2)

/-- Whether a letter announces an exponent. -/
def isExponentMark (c : Char) : Bool := c = 'e' || c = 'E'

/-- Takes what can follow the digits of a double. -/
def readScale (isNegative : Bool) (significand : Nat) (start : Int) (text : List Char) :
    Except Fault (Number × List Char) :=
  match text with
  | c :: rest =>
    if isExponentMark c then readExponent isNegative significand start rest
    else finishDouble isNegative significand start text
  | [] => finishDouble isNegative significand start []

/-- Takes a fraction after its point. -/
def readFraction (isNegative : Bool) (significand : Nat) (start : Int) (text : List Char) :
    Except Fault (Number × List Char) :=
  match spanDigits text with
  | ([], []) => .error (.next .endInValue [])
  | ([], rest) => .error (.next .invalidNumber rest)
  | (digits, rest) =>
    let (significand, left) := foldDigits significand digits
    readScale isNegative significand (start - (digits.length - left : Nat)) rest

/-- The integer of a significand, or the double when it does not fit. -/
def integer (isNegative : Bool) (n : Nat) : Number :=
  if !isNegative then .natural n
  else if n = 0 || Nat.pow 2 63 < n then .floating (-Float.ofScientific n false 0)
  else .negative n

/-- Takes a number after its minus sign, if it has one. A zero at the beginning has no digit after
it. -/
def readNumber (isNegative : Bool) (text : List Char) : Except Fault (Number × List Char) :=
  match text with
  | [] => .error (.before .endInValue [])
  | c :: more =>
    if !isDigit c then .error (.next .invalidNumber text)
    else
      let (digits, rest) := spanDigits text
      if c = '0' && digits.length ≠ 1 then .error (.next .invalidNumber more)
      else
        let (significand, left) := foldDigits 0 digits
        match rest with
        | '.' :: rest => readFraction isNegative significand left rest
        | _ =>
          if left = 0 && !(rest.head?.any isExponentMark) then
            .ok (integer isNegative significand, rest)
          else readScale isNegative significand left rest

/-- Skips an exponent after its letter. -/
def skipExponent (text : List Char) : Except Fault (List Char) :=
  let (_, text) := readSign text
  match spanDigits text with
  | ([], rest) => .error (.next .invalidNumber rest)
  | (_, rest) => .ok rest

/-- Skips an exponent, if there is one. -/
def skipScale : List Char → Except Fault (List Char)
  | [] => .ok []
  | c :: rest => if isExponentMark c then skipExponent rest else .ok (c :: rest)

/-- Skips a number after its minus sign, if it has one. -/
def skipNumber (text : List Char) : Except Fault (List Char) :=
  match text with
  | [] => .error (.next .invalidNumber [])
  | c :: more =>
    if !isDigit c then .error (.next .invalidNumber text)
    else
      let (digits, rest) := spanDigits text
      if c = '0' && digits.length ≠ 1 then .error (.next .invalidNumber more)
      else
        match rest with
        | '.' :: rest =>
          match spanDigits rest with
          | ([], rest) => .error (.next .invalidNumber rest)
          | (_, rest) => skipScale rest
        | _ => skipScale rest

end Keychord.Json
