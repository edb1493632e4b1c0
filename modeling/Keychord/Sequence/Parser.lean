import Keychord.Error
import Keychord.Sequence

/-!
# Reading key descriptions

A description is cut at its spaces; each part that is not empty describes one chord. The marks
`C-` and `M-` at the beginning of a part, in any order and number, give the modifier, and what
follows them is the token, which must not be empty.
-/

namespace Keychord

/-- Takes the marks off a part, keeping in mind whether Control and Meta were among them. -/
def Modifier.strip (control metaHeld : Bool) : List Char → Modifier × List Char
  | 'C' :: '-' :: rest => strip true metaHeld rest
  | 'M' :: '-' :: rest => strip control true rest
  | rest => (ofFlags control metaHeld, rest)

/-- The chord that a part describes. -/
def Chord.parse (part : List Char) : Except KeymapError Chord :=
  match Modifier.strip false false part with
  | (_, []) => .error (.invalidDescription (String.ofList part))
  | (modifier, token) => .ok ⟨modifier, String.ofList token⟩

namespace KeySequence

/-- The parts of a description between its spaces. -/
def parts (description : String) : List (List Char) :=
  (description.toList.splitOn ' ').filter (· ≠ [])

/-- The key sequence that a text describes; the first part that describes no chord is an error. -/
def parse (description : String) : Except KeymapError KeySequence := do
  match ← (parts description).mapM Chord.parse with
  | [] => .error .emptySequence
  | chords => .ok ⟨chords⟩

end KeySequence

end Keychord
