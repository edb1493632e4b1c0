/-!
# The fewest digits that read back

A finite binary floating point number stands for all reals that round to it. Its shortest decimal
has the fewest digits among the decimals in that interval, and of those with as few digits it is
the nearest to the number. All comparisons are made in natural numbers.
-/

namespace Keychord

/-- `digits · 10 ^ exponent`. -/
structure Decimal where
  digits : Nat
  exponent : Int
  deriving DecidableEq

/-- `significand · 2 ^ exponent`, the magnitude of a floating point number. The reals that round to
it reach half a unit up, and half a unit down unless the numbers below lie twice as close. -/
structure Binary where
  significand : Nat
  exponent : Int
  closeBelow : Bool
  deriving DecidableEq

namespace Binary

/-- The magnitude of a finite double precision number, from its bits. -/
def ofBits (bits : UInt64) : Binary :=
  let fraction : Nat := bits.toNat % Nat.pow 2 52
  let biased : Nat := bits.toNat / Nat.pow 2 52 % Nat.pow 2 11
  if biased = 0 then ⟨fraction, -1074, false⟩
  else ⟨Nat.pow 2 52 + fraction, (biased : Int) - 1075, fraction = 0 && biased ≠ 1⟩

/-- Compares `n · 2 ^ p` with `d · 10 ^ k`. -/
def compareDecimal (n : Nat) (p : Int) (d : Nat) (k : Int) : Ordering :=
  compare (n * Nat.pow 2 p.toNat * Nat.pow 10 (-k).toNat)
    (d * Nat.pow 10 k.toNat * Nat.pow 2 (-p).toNat)

/-- The end of the interval below, in quarters of a unit. -/
def low (b : Binary) : Nat := 4 * b.significand - (if b.closeBelow then 1 else 2)

/-- The end of the interval above, in quarters of a unit. -/
def high (b : Binary) : Nat := 4 * b.significand + 2

/-- Whether a decimal rounds to the number: the ends of the interval do when the significand is
even. -/
def covers (b : Binary) (d : Decimal) : Bool :=
  let below := compareDecimal b.low (b.exponent - 2) d.digits d.exponent
  let above := compareDecimal b.high (b.exponent - 2) d.digits d.exponent
  if b.significand % 2 = 0 then below ≠ .gt && above ≠ .lt
  else below = .lt && above = .gt

/-- The exponent of the leading decimal digit, for a number that is not zero: an estimate from the
number of binary digits is off by one at most. -/
def leadingExponent (b : Binary) : Int :=
  let estimate := (((Nat.log2 b.significand : Int) + b.exponent) * 30103).fdiv 100000
  let reaches (e : Int) : Bool := compareDecimal b.significand b.exponent 1 e ≠ .lt
  if reaches (estimate + 1) then estimate + 1
  else if reaches estimate then estimate
  else estimate - 1

/-- Of the two neighbours of the number among the multiples of `10 ^ k`, the nearer one that rounds
to the number; of two as near, the even one. -/
def nearestOn (b : Binary) (k : Int) : Option Decimal :=
  let below :=
    b.significand * Nat.pow 2 b.exponent.toNat * Nat.pow 10 (-k).toNat /
      (Nat.pow 10 k.toNat * Nat.pow 2 (-b.exponent).toNat)
  let down : Decimal := ⟨below, k⟩
  let up : Decimal := ⟨below + 1, k⟩
  match b.covers down, b.covers up with
  | false, false => none
  | true, false => some down
  | false, true => some up
  | true, true =>
    match compareDecimal (2 * b.significand) b.exponent (2 * below + 1) k with
    | .lt => some down
    | .gt => some up
    | .eq => some (if below % 2 = 0 then down else up)

/-- The shortest decimal of a number; seventeen digits are always enough. -/
def shortest (b : Binary) : Decimal :=
  if b.significand = 0 then ⟨0, 0⟩
  else
    let leading := b.leadingExponent
    let grids := (List.range 17).map fun (more : Nat) => leading - (more : Int)
    (grids.findSome? b.nearestOn).getD ⟨0, 0⟩

end Binary

end Keychord
