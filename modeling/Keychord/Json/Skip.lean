import Keychord.Json.Number

/-!
# Skipping values

A value that nobody asks for is checked and passed over. The containers that are open at a place
are kept on a stack, so that they may be nested to any depth. A list or an object goes on with a
comma; after the comma of a list a value must follow, after that of an object a key.

Main statement: what is left after a value is shorter than what was there before it.
-/

namespace Keychord.Json

/-- A container that is open. -/
inductive Frame where
  | list
  | object
  deriving DecidableEq

/-- The character that closes a container. -/
def Frame.close : Frame → Char
  | .list => ']'
  | .object => '}'

/-- A text that ends inside a container. -/
def Frame.atEnd : Frame → Cause
  | .list => .endInList
  | .object => .endInObject

/-- Neither a comma nor the end of the container. -/
def Frame.expected : Frame → Cause
  | .list => .expectedListCommaOrEnd
  | .object => .expectedObjectCommaOrEnd

/-- Skips a value that is no container. -/
def skipScalar (text : List Char) : Except Fault (List Char) :=
  match text with
  | [] => .error (.next .endInValue [])
  | 'n' :: rest => readWord ['u', 'l', 'l'] rest
  | 't' :: rest => readWord ['r', 'u', 'e'] rest
  | 'f' :: rest => readWord ['a', 'l', 's', 'e'] rest
  | '-' :: rest => skipNumber rest
  | '"' :: rest => skipString rest
  | c :: rest =>
    if isDigit c then skipNumber (c :: rest) else .error (.next .expectedValue (c :: rest))

/-- Takes the colon between a key and its value. -/
def readColon (text : List Char) : Except Fault (List Char) :=
  match skipBlanks text with
  | ':' :: rest => .ok rest
  | [] => .error (.next .endInObject [])
  | rest => .error (.next .expectedColon rest)

/-- Skips a key of an object and its colon. -/
def skipKey (text : List Char) : Except Fault (List Char) :=
  match skipBlanks text with
  | '"' :: rest => (skipString rest).bind readColon
  | [] => .error (.next .endInObject [])
  | rest => .error (.next .keyMustBeString rest)

/-! ## What is left -/

theorem length_skipBlanks_le (text : List Char) : (skipBlanks text).length ≤ text.length :=
  (List.dropWhile_suffix _).length_le

theorem length_spanDigits_le (text : List Char) : (spanDigits text).2.length ≤ text.length :=
  (List.dropWhile_suffix _).length_le

theorem readWord_length {word text rest : List Char} (h : readWord word text = .ok rest) :
    rest.length ≤ text.length := by
  induction word generalizing text with
  | nil =>
    injection h with h
    exact h ▸ Nat.le_refl _
  | cons c word ih =>
    cases text with
    | nil => contradiction
    | cons d text =>
      unfold readWord at h
      split at h
      · have := ih h
        simp only [List.length_cons]
        omega
      · contradiction

theorem skipString_length {text rest : List Char} (h : skipString text = .ok rest) :
    rest.length < text.length := by
  fun_induction skipString text with
  | case1 => contradiction
  | case2 r =>
    injection h with h
    subst h
    simp
  | case3 text r he ih =>
    have := skipEscape_length he
    have := ih h
    simp only [List.length_cons]
    omega
  | case4 => contradiction
  | case5 => contradiction
  | case6 c text _ _ _ ih =>
    have := ih h
    simp only [List.length_cons]
    omega

theorem readSign_length (text : List Char) : (readSign text).2.length ≤ text.length := by
  unfold readSign
  split <;> simp

theorem skipExponent_length {text rest : List Char} (h : skipExponent text = .ok rest) :
    rest.length ≤ text.length := by
  have hs := readSign_length text
  have hd := length_spanDigits_le (readSign text).2
  unfold skipExponent at h
  simp only at h
  split at h
  · contradiction
  · next r hr =>
    injection h with h
    subst h
    rw [hr] at hd
    simp only at hd
    omega

theorem skipScale_length {text rest : List Char} (h : skipScale text = .ok rest) :
    rest.length ≤ text.length := by
  unfold skipScale at h
  split at h
  · injection h with h
    exact h ▸ Nat.le_refl _
  · split at h
    · have := skipExponent_length h
      simp only [List.length_cons]
      omega
    · injection h with h
      exact h ▸ Nat.le_refl _

theorem length_spanDigits_lt {c : Char} {text : List Char} (hc : isDigit c = true) :
    (spanDigits (c :: text)).2.length < (c :: text).length := by
  have := (List.dropWhile_suffix (p := isDigit) (l := text)).length_le
  simp only [spanDigits, List.dropWhile_cons, hc, if_true, List.length_cons]
  omega

theorem skipNumber_length {text rest : List Char} (h : skipNumber text = .ok rest) :
    rest.length < text.length := by
  unfold skipNumber at h
  split at h
  · contradiction
  · next c more =>
    split at h
    · contradiction
    · next hc =>
      have hl := @length_spanDigits_lt c more (by simpa using hc)
      simp only at h
      split at h
      · contradiction
      · split at h
        · next r hr =>
          rw [hr] at hl
          simp only [List.length_cons] at hl
          split at h
          · contradiction
          · next r' hr' =>
            have hd := length_spanDigits_le r
            have := skipScale_length h
            rw [hr'] at hd
            simp only [List.length_cons] at *
            omega
        · have := skipScale_length h
          omega

theorem skipScalar_length {text rest : List Char} (h : skipScalar text = .ok rest) :
    rest.length < text.length := by
  unfold skipScalar at h
  split at h
  · contradiction
  · exact Nat.lt_succ_of_le (readWord_length h)
  · exact Nat.lt_succ_of_le (readWord_length h)
  · exact Nat.lt_succ_of_le (readWord_length h)
  · exact Nat.lt_succ_of_lt (skipNumber_length h)
  · exact Nat.lt_succ_of_lt (skipString_length h)
  · split at h
    · exact skipNumber_length h
    · contradiction

theorem readColon_length {text rest : List Char} (h : readColon text = .ok rest) :
    rest.length < text.length := by
  have hb := length_skipBlanks_le text
  unfold readColon at h
  split at h
  · next r hr =>
    injection h with h
    subst h
    rw [hr] at hb
    simp only [List.length_cons] at hb
    omega
  · contradiction
  · contradiction

theorem skipKey_length {text rest : List Char} (h : skipKey text = .ok rest) :
    rest.length < text.length := by
  have hb := length_skipBlanks_le text
  unfold skipKey at h
  split at h
  · next r hr =>
    rw [hr] at hb
    simp only [List.length_cons] at hb
    cases hs : skipString r with
    | error e => simp [hs, Except.bind] at h
    | ok r' =>
      have := skipString_length hs
      simp only [hs, Except.bind] at h
      have := readColon_length h
      omega
  · contradiction
  · contradiction

/-! ## Values -/

theorem length_lt_of_skipBlanks {text rest : List Char} {c : Char}
    (h : skipBlanks text = c :: rest) : rest.length < text.length := by
  have hb := length_skipBlanks_le text
  rw [h] at hb
  simp only [List.length_cons] at hb
  omega

mutual

/-- Skips a value inside of the open containers, and what is left of those. -/
def skipValue (stack : List Frame) (text : List Char) : Except Fault (List Char) :=
  match _ : skipBlanks text with
  | '[' :: rest => skipItem true .list stack rest
  | '{' :: rest => skipItem true .object stack rest
  | text' =>
    match _ : skipScalar text' with
    | .ok rest => skipAfter stack rest
    | .error e => .error e
termination_by text.length * 4
decreasing_by
  · have := length_lt_of_skipBlanks ‹_›
    omega
  · have := length_lt_of_skipBlanks ‹_›
    omega
  · have hs := skipScalar_length ‹_›
    have := length_skipBlanks_le text
    rw [‹skipBlanks text = _›] at this
    omega

/-- Goes on after a value. -/
def skipAfter (stack : List Frame) (text : List Char) : Except Fault (List Char) :=
  match stack with
  | [] => .ok text
  | frame :: stack => skipItem false frame stack text
termination_by text.length * 4 + 3
decreasing_by omega

/-- Goes on inside of a container, before its first item or after another one. -/
def skipItem (isFirst : Bool) (frame : Frame) (stack : List Frame) (text : List Char) :
    Except Fault (List Char) :=
  match _ : skipBlanks text with
  | [] => .error (.next frame.atEnd [])
  | c :: rest =>
    if c = frame.close then skipAfter stack rest
    else if isFirst then skipEntry frame stack (c :: rest)
    else if c = ',' then skipEntry frame stack rest
    else .error (.next frame.expected (c :: rest))
termination_by text.length * 4 + 2
decreasing_by
  · have := length_lt_of_skipBlanks ‹_›
    omega
  · have := length_skipBlanks_le text
    rw [‹skipBlanks text = _›] at this
    omega
  · have := length_lt_of_skipBlanks ‹_›
    omega

/-- Skips an item of a container and what is left of the container. -/
def skipEntry (frame : Frame) (stack : List Frame) (text : List Char) :
    Except Fault (List Char) :=
  match frame with
  | .list => skipValue (frame :: stack) text
  | .object =>
    match _ : skipKey text with
    | .ok rest => skipValue (frame :: stack) rest
    | .error e => .error e
termination_by text.length * 4 + 1
decreasing_by
  · omega
  · have := skipKey_length ‹_›
    omega

end

mutual

theorem skipValue_length {stack : List Frame} {text rest : List Char}
    (h : skipValue stack text = .ok rest) : rest.length < text.length := by
  have hb := length_skipBlanks_le text
  unfold skipValue at h
  split at h
  · have := length_lt_of_skipBlanks ‹_›
    have := skipItem_length h
    omega
  · have := length_lt_of_skipBlanks ‹_›
    have := skipItem_length h
    omega
  · split at h
    · have := skipScalar_length ‹_›
      have := skipAfter_length h
      omega
    · contradiction
termination_by text.length * 4
decreasing_by
  · have := length_lt_of_skipBlanks ‹_›
    omega
  · have := length_lt_of_skipBlanks ‹_›
    omega
  · have := skipScalar_length ‹_›
    omega

theorem skipAfter_length {stack : List Frame} {text rest : List Char}
    (h : skipAfter stack text = .ok rest) : rest.length ≤ text.length := by
  unfold skipAfter at h
  split at h
  · injection h with h
    exact h ▸ Nat.le_refl _
  · exact Nat.le_of_lt (skipItem_length h)
termination_by text.length * 4 + 3
decreasing_by omega

theorem skipItem_length {isFirst : Bool} {frame : Frame} {stack : List Frame}
    {text rest : List Char} (h : skipItem isFirst frame stack text = .ok rest) :
    rest.length < text.length := by
  have hb := length_skipBlanks_le text
  unfold skipItem at h
  split at h
  · contradiction
  · have hl := length_lt_of_skipBlanks ‹_›
    rw [‹skipBlanks text = _›] at hb
    split at h
    · have := skipAfter_length h
      omega
    · split at h
      · have := skipEntry_length h
        omega
      · split at h
        · have := skipEntry_length h
          omega
        · contradiction
termination_by text.length * 4 + 2
decreasing_by
  · have := length_lt_of_skipBlanks ‹_›
    omega
  · simp only [List.length_cons]
    omega
  · have := length_lt_of_skipBlanks ‹_›
    omega

theorem skipEntry_length {frame : Frame} {stack : List Frame} {text rest : List Char}
    (h : skipEntry frame stack text = .ok rest) : rest.length < text.length := by
  unfold skipEntry at h
  split at h
  · exact skipValue_length h
  · split at h
    · have := skipKey_length ‹_›
      have := skipValue_length h
      omega
    · contradiction
termination_by text.length * 4 + 1
decreasing_by
  · omega
  · have := skipKey_length ‹_›
    omega

end

end Keychord.Json
