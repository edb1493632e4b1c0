import Keychord.Terminal.Event
import Keychord.Text.Uppercase

/-!
# What a terminal sends

A terminal in raw mode sends most keys as the character they write. Keys held with Control come as
control characters, keys held with Alt after an escape character, and keys that write nothing as
escape sequences. An escape character that nothing follows is the escape key itself. An upper case
letter counts as held with Shift.
-/

namespace Keychord.Terminal

/-- A key with modifiers, going down. -/
def press (code : KeyCode) (modifiers : Modifiers := {}) : Event := .key { code, modifiers }

/-- The event of a single character. -/
def charEvent (c : Char) : Event :=
  match c with
  | '\r' => press .enter
  | '\t' => press .tab
  | '\x7f' => press .backspace
  | '\x1b' => press .escape
  | '\x00' => press (.char ' ') { control := true }
  | c =>
    if c.toNat ≤ 0x1a then press (.char (Char.ofNat (c.toNat + 0x60))) { control := true }
    else if c.toNat < 0x20 then press (.char (Char.ofNat (c.toNat + 0x18))) { control := true }
    else press (.char c) { shift := Text.isUppercase c }

/-- The key of a letter that ends an escape sequence. -/
def letterKey? : Char → Option KeyCode
  | 'A' => some .up
  | 'B' => some .down
  | 'C' => some .right
  | 'D' => some .left
  | 'F' => some .endKey
  | 'H' => some .homeKey
  | 'P' => some (.function 1)
  | 'Q' => some (.function 2)
  | 'R' => some (.function 3)
  | 'S' => some (.function 4)
  | 'Z' => some .backTab
  | _ => none

/-- The key of a number that ends an escape sequence with a tilde. -/
def numberKey? : Nat → Option KeyCode
  | 1 | 7 => some .homeKey
  | 2 => some .insert
  | 3 => some .delete
  | 4 | 8 => some .endKey
  | 5 => some .pageUp
  | 6 => some .pageDown
  | 11 => some (.function 1)
  | 12 => some (.function 2)
  | 13 => some (.function 3)
  | 14 => some (.function 4)
  | 15 => some (.function 5)
  | 17 => some (.function 6)
  | 18 => some (.function 7)
  | 19 => some (.function 8)
  | 20 => some (.function 9)
  | 21 => some (.function 10)
  | 23 => some (.function 11)
  | 24 => some (.function 12)
  | _ => none

/-- The key of an escape sequence, after its opening. -/
def sequenceKey? (text : List Char) : Option KeyCode × List Char :=
  let digits := text.takeWhile Char.isDigit
  match digits, text.dropWhile Char.isDigit with
  | [], c :: rest => (letterKey? c, rest)
  | _, '~' :: rest => ((String.ofList digits).toNat?.bind numberKey?, rest)
  | _, rest => (none, rest.drop 1)

/-- The first event that a text spells, if any, and the rest of the text. -/
def nextEvent (c : Char) (text : List Char) : Option Event × List Char :=
  match c, text with
  | '\x1b', '[' :: d :: rest | '\x1b', 'O' :: d :: rest =>
    let (code, rest) := sequenceKey? (d :: rest)
    (code.map (press ·), rest)
  | '\x1b', d :: rest =>
    if d = '\x1b' then (some (press .escape), d :: rest)
    else
      match charEvent d with
      | .key e => (some (.key { e with modifiers := { e.modifiers with alt := true } }), rest)
      | e => (some e, rest)
  | c, text => (some (charEvent c), text)

theorem sequenceKey?_length (text : List Char) : (sequenceKey? text).2.length ≤ text.length := by
  have hd := (List.dropWhile_suffix (p := Char.isDigit) (l := text)).length_le
  unfold sequenceKey?
  simp only
  split
  · rw [‹text.dropWhile Char.isDigit = _›] at hd
    simp only [List.length_cons] at hd
    simp only
    omega
  · rw [‹text.dropWhile Char.isDigit = _›] at hd
    simp only [List.length_cons] at hd
    simp only
    omega
  · simp only [List.length_drop]
    omega

theorem nextEvent_length (c : Char) (text : List Char) :
    (nextEvent c text).2.length ≤ text.length := by
  unfold nextEvent
  split
  · exact Nat.le_succ_of_le (sequenceKey?_length _)
  · exact Nat.le_succ_of_le (sequenceKey?_length _)
  · split
    · exact Nat.le_refl _
    · split <;> exact Nat.le_succ _
  · exact Nat.le_refl _

/-- The events that a text spells. -/
def events : List Char → List Event
  | [] => []
  | c :: text =>
    let next := nextEvent c text
    next.1.toList ++ events next.2
termination_by text => text.length
decreasing_by
  have := nextEvent_length c text
  simp only [List.length_cons]
  omega

end Keychord.Terminal
