import Keychord.Modifier

/-!
# Chords and key sequences

A chord is a token with a modifier. A key sequence is a row of chords; it is described by the texts
of its chords with one space between neighbours.
-/

namespace Keychord

/-- A token together with what is held down. -/
structure Chord where
  modifier : Modifier
  token : String
  deriving DecidableEq

/-- The marks of the modifier, then the token. -/
def Chord.text (c : Chord) : String := c.modifier.text ++ c.token

/-- Chords in the order in which they are struck. -/
@[ext]
structure KeySequence where
  chords : List Chord := []
  deriving DecidableEq

namespace KeySequence

/-- The sequence without chords. -/
def empty : KeySequence := {}

def isEmpty (s : KeySequence) : Bool := s.chords.isEmpty

def length (s : KeySequence) : Nat := s.chords.length

/-- One more chord at the end. -/
def push (s : KeySequence) (c : Chord) : KeySequence := ⟨s.chords ++ [c]⟩

/-- Whether a sequence begins with all the chords of another. -/
def startsWith (s t : KeySequence) : Bool := t.chords.isPrefixOf s.chords

/-- The sequence without its last chord, if a chord remains. -/
def parent (s : KeySequence) : Option KeySequence :=
  match s.chords.dropLast with
  | [] => none
  | rest => some ⟨rest⟩

theorem length_lt_of_parent {s p : KeySequence} (h : s.parent = some p) : p.length < s.length := by
  unfold parent at h
  split at h
  · cases h
  · next rest hRest =>
    obtain rfl := Option.some.inj h
    have hLength : s.chords.dropLast.length = s.chords.length - 1 := List.length_dropLast
    have hPositive : s.chords.dropLast.length ≠ 0 :=
      fun h => hRest (List.eq_nil_of_length_eq_zero h)
    simp only [length]
    omega

/-- The parent, the parent of the parent and so on: the longest comes first. -/
def ancestors (s : KeySequence) : List KeySequence :=
  match _hParent : s.parent with
  | none => []
  | some p => p :: p.ancestors
termination_by s.length
decreasing_by exact length_lt_of_parent _hParent

/-- The sequence as a text. -/
def description (s : KeySequence) : String := " ".intercalate (s.chords.map Chord.text)

end KeySequence

end Keychord
