import Keychord.Json.Fault

/-!
# Blanks, words and string literals

The leaves of JSON text. Every reader takes the text after the character that announces it, and
gives back the text that it leaves. A string literal that is read must spell characters: a
surrogate must be the first of a pair, followed at once by the second; one that is skipped need
not.
-/

namespace Keychord.Json

/-- The characters between tokens. -/
def isBlank (c : Char) : Bool := c = ' ' || c = '\n' || c = '\t' || c = '\r'

/-- The text from its first character that is no blank. -/
def skipBlanks (text : List Char) : List Char := text.dropWhile isBlank

/-- Takes the rest of a word. -/
def readWord : List Char → List Char → Except Fault (List Char)
  | [], text => .ok text
  | _ :: _, [] => .error (.before .endInValue [])
  | c :: word, d :: text =>
    if c = d then readWord word text else .error (.next .expectedIdent (d :: text))

/-- The value of a hexadecimal digit. -/
def hexDigit? (c : Char) : Option Nat :=
  if '0' ≤ c ∧ c ≤ '9' then some (c.toNat - '0'.toNat)
  else if 'a' ≤ c ∧ c ≤ 'f' then some (c.toNat - 'a'.toNat + 10)
  else if 'A' ≤ c ∧ c ≤ 'F' then some (c.toNat - 'A'.toNat + 10)
  else none

/-- The value of four hexadecimal digits. -/
def hexValue? (a b c d : Char) : Option Nat := do
  let a ← hexDigit? a
  let b ← hexDigit? b
  let c ← hexDigit? c
  let d ← hexDigit? d
  return ((a * 16 + b) * 16 + c) * 16 + d

/-- Takes four hexadecimal digits. What stands in their place is looked at as four bytes, which the
text must have. -/
def readHex (text : List Char) : Except Fault (Nat × List Char) :=
  match text with
  | a :: b :: c :: d :: rest =>
    match hexValue? a b c d with
    | some n => .ok (n, rest)
    | none => .error ⟨.invalidEscape, text, 4⟩
  | _ =>
    if byteSize text < 4 then .error (.before .endInString [])
    else .error ⟨.invalidEscape, text, 4⟩

/-- Whether a unit is the first of a surrogate pair. -/
def isLeading (n : Nat) : Bool := 0xD800 ≤ n && n ≤ 0xDBFF

/-- Whether a unit is the second of a surrogate pair. -/
def isTrailing (n : Nat) : Bool := 0xDC00 ≤ n && n ≤ 0xDFFF

/-- The character of a surrogate pair. -/
def pairChar (leading trailing : Nat) : Char :=
  Char.ofNat (0x10000 + (leading - 0xD800) * 0x400 + (trailing - 0xDC00))

/-- Takes the second unit of a pair, with the mark of its escape. -/
def readTrailing (leading : Nat) : List Char → Except Fault (Char × List Char)
  | [] | ['\\'] => .error (.before .endInString [])
  | '\\' :: 'u' :: text => do
    let (n, rest) ← readHex text
    if isTrailing n then .ok (pairChar leading n, rest) else .error (.before .loneSurrogate rest)
  | '\\' :: text => .error (.next .unfinishedSurrogatePair text)
  | text => .error (.next .unfinishedSurrogatePair text)

/-- The characters that are escaped by a letter or by themselves. -/
def simpleEscape? : Char → Option Char
  | '"' => some '"'
  | '\\' => some '\\'
  | '/' => some '/'
  | 'b' => some '\x08'
  | 'f' => some '\x0c'
  | 'n' => some '\n'
  | 'r' => some '\r'
  | 't' => some '\t'
  | _ => none

/-- Takes an escape after its backslash. -/
def readEscape : List Char → Except Fault (Char × List Char)
  | [] => .error (.before .endInString [])
  | 'u' :: text => do
    let (n, rest) ← readHex text
    if isTrailing n then .error (.before .loneSurrogate rest)
    else if isLeading n then readTrailing n rest
    else .ok (Char.ofNat n, rest)
  | c :: text =>
    match simpleEscape? c with
    | some d => .ok (d, text)
    | none => .error (.next .invalidEscape (c :: text))

/-- Whether a character cannot stand in a string literal. -/
def isControl (c : Char) : Bool := c.toNat < 0x20

theorem readHex_length {text rest : List Char} {n : Nat} (h : readHex text = .ok (n, rest)) :
    rest.length < text.length := by
  unfold readHex at h
  split at h
  · split at h
    · injection h with h
      injection h with _ h
      subst h
      simp only [List.length_cons]
      omega
    · contradiction
  · split at h <;> contradiction

theorem readTrailing_length {leading : Nat} {text rest : List Char} {c : Char}
    (h : readTrailing leading text = .ok (c, rest)) : rest.length < text.length := by
  unfold readTrailing at h
  split at h
  · contradiction
  · contradiction
  · next text =>
    cases hx : readHex text with
    | error e => simp [hx, bind, Except.bind] at h
    | ok p =>
      obtain ⟨n, r⟩ := p
      have hr := readHex_length hx
      simp only [hx, bind, Except.bind] at h
      split at h
      · injection h with h
        injection h with _ h
        subst h
        simp only [List.length_cons]
        omega
      · contradiction
  · contradiction
  · contradiction

theorem readEscape_length {text rest : List Char} {c : Char}
    (h : readEscape text = .ok (c, rest)) : rest.length < text.length := by
  unfold readEscape at h
  split at h
  · contradiction
  · next text =>
    cases hx : readHex text with
    | error e => simp [hx, bind, Except.bind] at h
    | ok p =>
      obtain ⟨n, r⟩ := p
      have hr := readHex_length hx
      simp only [hx, bind, Except.bind] at h
      split at h
      · contradiction
      · split at h
        · have ht := readTrailing_length h
          simp only [List.length_cons]
          omega
        · injection h with h
          injection h with _ h
          subst h
          simp only [List.length_cons]
          omega
  · split at h
    · injection h with h
      injection h with _ h
      subst h
      simp
    · contradiction

/-- Takes a string literal after its opening quote; `acc` holds the characters so far, the last one
first. -/
def readStringFrom (acc : List Char) : List Char → Except Fault (String × List Char)
  | [] => .error (.before .endInString [])
  | '"' :: rest => .ok (String.ofList acc.reverse, rest)
  | '\\' :: text =>
    match _ : readEscape text with
    | .ok (c, rest) => readStringFrom (c :: acc) rest
    | .error e => .error e
  | c :: text =>
    if isControl c then .error (.next .controlCharacter (c :: text))
    else readStringFrom (c :: acc) text
termination_by text => text.length
decreasing_by
  · have := readEscape_length ‹_›
    simp only [List.length_cons]
    omega
  · simp

/-- Takes a string literal after its opening quote. -/
def readString (text : List Char) : Except Fault (String × List Char) := readStringFrom [] text

/-- Skips an escape after its backslash. -/
def skipEscape : List Char → Except Fault (List Char)
  | [] => .error (.before .endInString [])
  | 'u' :: text => (readHex text).map Prod.snd
  | c :: text =>
    if (simpleEscape? c).isSome then .ok text else .error (.next .invalidEscape (c :: text))

theorem skipEscape_length {text rest : List Char} (h : skipEscape text = .ok rest) :
    rest.length < text.length := by
  unfold skipEscape at h
  split at h
  · contradiction
  · next text =>
    cases hx : readHex text with
    | error e => simp [hx, Except.map] at h
    | ok p =>
      have hr : p.2.length < text.length := readHex_length hx
      simp only [hx, Except.map] at h
      injection h with h
      subst h
      simp only [List.length_cons]
      omega
  · split at h
    · injection h with h
      subst h
      simp
    · contradiction

/-- Skips a string literal after its opening quote. -/
def skipString : List Char → Except Fault (List Char)
  | [] => .error (.before .endInString [])
  | '"' :: rest => .ok rest
  | '\\' :: text =>
    match _ : skipEscape text with
    | .ok rest => skipString rest
    | .error e => .error e
  | c :: text =>
    if isControl c then .error (.before .controlCharacter (c :: text)) else skipString text
termination_by text => text.length
decreasing_by
  · have := skipEscape_length ‹_›
    simp only [List.length_cons]
    omega
  · simp

end Keychord.Json
