import Keychord.Decimal.Shortest

/-!
# Writing decimals

A style says for which exponents of the leading digit a decimal is written with its point in place.
For the others the point follows the leading digit, and the exponent is written with its sign.
-/

namespace Keychord

/-- How decimals are written. -/
structure Decimal.Style where
  leastPlain : Int
  greatestPlain : Int

namespace Decimal

/-- The digits without trailing zeros, and the exponent of the leading one. -/
def significant (d : Decimal) : List Char × Int :=
  let digits := Nat.toDigits 10 d.digits
  ((digits.reverse.dropWhile (· = '0')).reverse, d.exponent + digits.length - 1)

namespace Style

/-- An exponent with its sign. -/
def exponentText (e : Int) : List Char :=
  (if e < 0 then '-' else '+') :: Nat.toDigits 10 e.natAbs

/-- A decimal in a given style; a whole number keeps a zero after its point. -/
def write (st : Style) (d : Decimal) : String :=
  if d.digits = 0 then "0.0"
  else
    let (digits, e) := d.significant
    String.ofList <|
      if e < st.leastPlain || st.greatestPlain < e then
        let rest := digits.drop 1
        digits.take 1 ++ (if rest.isEmpty then [] else '.' :: rest) ++ 'e' :: exponentText e
      else if e < 0 then
        '0' :: '.' :: List.replicate (e.natAbs - 1) '0' ++ digits
      else
        let whole := e.toNat + 1
        if digits.length ≤ whole then
          digits ++ List.replicate (whole - digits.length) '0' ++ ['.', '0']
        else digits.take whole ++ '.' :: digits.drop whole

end Style

end Decimal

end Keychord
