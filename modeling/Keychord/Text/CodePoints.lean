/-!
# Sets of code points

A set of code points is given by its maximal runs, each by its first and last member.
-/

namespace Keychord.Text

/-- Runs of code points, each from its first to its last member. -/
abbrev CodePoints := Array (Nat × Nat)

/-- A character is in the set when a run holds its code point. -/
def CodePoints.contains (runs : CodePoints) (c : Char) : Bool :=
  runs.any fun (first, last) => decide (first ≤ c.toNat) && decide (c.toNat ≤ last)

end Keychord.Text
