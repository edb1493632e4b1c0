import Keychord.Config
import Keychord.Json.Skip
import Keychord.Text.Quoted

/-!
# Reading a configuration

A configuration is written as a JSON object whose members are settings with a text as value, or as
a JSON list of the texts of the first settings. Settings that are missing have their default.
Members with other names are skipped, a setting that is given twice is a fault.
-/

namespace Keychord.Config

open Json

/-- The settings that have been read. -/
abbrev Draft := Field → Option String

namespace Draft

/-- No setting has been read. -/
def empty : Draft := fun _ => none

/-- One more setting has been read. -/
def set (d : Draft) (f : Field) (value : String) : Draft :=
  fun g => if g = f then some value else d g

/-- The configuration with the settings that have been read, and the default for the others. -/
def config (d : Draft) : Config where
  literalEscape := (d .literalEscape).getD ({} : Config).literalEscape
  metaTrigger := (d .metaTrigger).getD ({} : Config).metaTrigger
  controlMetaTrigger := (d .controlMetaTrigger).getD ({} : Config).controlMetaTrigger
  logLevel := (d .logLevel).getD ({} : Config).logLevel

end Draft

/-- The fault of a value that is not what is expected. A word, a number or a string is read first,
and what is wrong in it goes before. -/
def unexpected (expected : String) (text : List Char) : Fault :=
  let named (found : String) : Except Fault (List Char) → Fault
    | .ok rest => .before (.invalidType found expected) rest
    | .error e => e
  let counted : Except Fault (Number × List Char) → Fault
    | .ok (n, rest) => .before (.invalidType n.text expected) rest
    | .error e => e
  match text with
  | [] => .next .expectedValue []
  | 'n' :: rest => named "null" (readWord ['u', 'l', 'l'] rest)
  | 't' :: rest => named "boolean `true`" (readWord ['r', 'u', 'e'] rest)
  | 'f' :: rest => named "boolean `false`" (readWord ['a', 'l', 's', 'e'] rest)
  | '-' :: rest => counted (readNumber true rest)
  | '[' :: _ => .before (.invalidType "sequence" expected) text
  | '{' :: _ => .before (.invalidType "map" expected) text
  | '"' :: rest =>
    match readString rest with
    | .ok (s, rest) => .before (.invalidType ("string " ++ Text.quote s) expected) rest
    | .error e => e
  | c :: _ => if isDigit c then counted (readNumber false text) else .next .expectedValue text

/-- Takes the text of a setting. -/
def readText (text : List Char) : Except Fault (String × List Char) :=
  match skipBlanks text with
  | [] => .error (.next .endInValue [])
  | '"' :: rest => readString rest
  | rest => .error (unexpected "a string" rest)

/-! ## Objects -/

/-- Takes the next key of an object, or the end of the object. -/
def readKey (isFirst : Bool) (text : List Char) : Except Fault (Option String × List Char) :=
  let key (rest : List Char) := (readString rest).map fun (name, rest) => (some name, rest)
  match skipBlanks text with
  | [] => .error (.next .endInObject [])
  | '}' :: rest => .ok (none, rest)
  | c :: rest =>
    if isFirst then
      if c = '"' then key rest else .error (.next .keyMustBeString (c :: rest))
    else if c = ',' then
      match skipBlanks rest with
      | [] => .error (.next .endInValue [])
      | '"' :: rest => key rest
      | '}' :: rest => .error (.next .trailingComma ('}' :: rest))
      | rest => .error (.next .keyMustBeString rest)
    else .error (.next .expectedObjectCommaOrEnd (c :: rest))

/-- A setting given twice is noticed after its second name, and placed after the end of the object
if that comes next. -/
def duplicate (name : String) (text : List Char) : Fault :=
  match skipBlanks text with
  | '}' :: rest => .before (.duplicateField name) rest
  | rest => .before (.duplicateField name) rest

/-- Takes what follows the key of a member. -/
def readMember (d : Draft) (name : String) (text : List Char) :
    Except Fault (Draft × List Char) :=
  match Field.ofName? name with
  | some f =>
    if (d f).isSome then .error (duplicate name text)
    else do
      let rest ← readColon text
      let (value, rest) ← readText rest
      return (d.set f value, rest)
  | none => do
    let rest ← readColon text
    let rest ← skipValue [] rest
    return (d, rest)

theorem readStringFrom_length {acc text rest : List Char} {s : String}
    (h : readStringFrom acc text = .ok (s, rest)) : rest.length < text.length := by
  fun_induction readStringFrom acc text with
  | case1 => contradiction
  | case2 acc r =>
    injection h with h
    injection h with _ h
    subst h
    simp
  | case3 acc text c r he ih =>
    have := readEscape_length he
    have := ih h
    simp only [List.length_cons]
    omega
  | case4 => contradiction
  | case5 => contradiction
  | case6 acc c text _ _ _ ih =>
    have := ih h
    simp only [List.length_cons]
    omega

theorem readString_length {text rest : List Char} {s : String}
    (h : readString text = .ok (s, rest)) : rest.length < text.length :=
  readStringFrom_length h

theorem readText_length {text rest : List Char} {s : String}
    (h : readText text = .ok (s, rest)) : rest.length < text.length := by
  unfold readText at h
  split at h
  · contradiction
  · have := length_lt_of_skipBlanks ‹_›
    have := readString_length h
    omega
  · contradiction

theorem readKey_length {isFirst : Bool} {text rest : List Char} {name : Option String}
    (h : readKey isFirst text = .ok (name, rest)) : rest.length < text.length := by
  have key {r : List Char}
      (h : (readString r).map (fun (name, rest) => (some name, rest)) = .ok (name, rest)) :
      rest.length < r.length := by
    cases hs : readString r with
    | error e => simp [hs, Except.map] at h
    | ok p =>
      simp only [hs, Except.map] at h
      injection h with h
      injection h with _ h
      exact h ▸ readString_length (s := p.1) hs
  unfold readKey at h
  split at h
  · contradiction
  · injection h with h
    injection h with _ h
    exact h ▸ length_lt_of_skipBlanks ‹_›
  · have := length_lt_of_skipBlanks ‹_›
    split at h
    · split at h
      · have := key h
        omega
      · contradiction
    · split at h
      · split at h
        · contradiction
        · have := length_lt_of_skipBlanks ‹_›
          have := key h
          omega
        · contradiction
        · contradiction
      · contradiction

theorem readMember_length {d d' : Draft} {name : String} {text rest : List Char}
    (h : readMember d name text = .ok (d', rest)) : rest.length < text.length := by
  unfold readMember at h
  split at h
  · split at h
    · contradiction
    · cases hc : readColon text with
      | error e => simp [hc, bind, Except.bind] at h
      | ok r =>
        simp only [hc, bind, Except.bind] at h
        split at h
        · contradiction
        · have := readColon_length hc
          have := readText_length ‹_›
          injection h with h
          injection h with _ h
          subst h
          omega
  · cases hc : readColon text with
    | error e => simp [hc, bind, Except.bind] at h
    | ok r =>
      simp only [hc, bind, Except.bind] at h
      split at h
      · contradiction
      · have := readColon_length hc
        have := skipValue_length ‹_›
        injection h with h
        injection h with _ h
        subst h
        omega

/-- Takes the members of an object and its end. -/
def readMembers (isFirst : Bool) (d : Draft) (text : List Char) :
    Except Fault (Draft × List Char) :=
  match _ : readKey isFirst text with
  | .error e => .error e
  | .ok (none, rest) => .ok (d, rest)
  | .ok (some name, rest) =>
    match _ : readMember d name rest with
    | .error e => .error e
    | .ok (d', rest') => readMembers false d' rest'
termination_by text.length
decreasing_by
  have := readKey_length ‹_›
  have := readMember_length ‹_›
  omega

/-! ## Lists -/

/-- Looks for the next element of a list; there is none before the end of the list. -/
def readElement (isFirst : Bool) (text : List Char) : Except Fault (Option (List Char)) :=
  match skipBlanks text with
  | [] => .error (.next .endInList [])
  | ']' :: _ => .ok none
  | c :: rest =>
    if isFirst then .ok (some (c :: rest))
    else if c = ',' then
      match skipBlanks rest with
      | [] => .error (.next .endInValue [])
      | ']' :: rest => .error (.next .trailingComma (']' :: rest))
      | rest => .ok (some rest)
    else .error (.next .expectedListCommaOrEnd (c :: rest))

/-- Takes the elements of a list for the given settings, as far as there are any. -/
def readElements (isFirst : Bool) (d : Draft) :
    List Field → List Char → Except Fault (Draft × List Char)
  | [], text => .ok (d, text)
  | f :: fields, text => do
    match ← readElement isFirst text with
    | none => return (d, text)
    | some rest =>
      let (value, rest) ← readText rest
      readElements false (d.set f value) fields rest

/-- Takes the end of a list that has all the elements it may have. -/
def readListEnd (text : List Char) : Except Fault (List Char) :=
  match skipBlanks text with
  | [] => .error (.next .endInList [])
  | ']' :: rest => .ok rest
  | ',' :: rest =>
    match skipBlanks rest with
    | ']' :: rest => .error (.next .trailingComma (']' :: rest))
    | rest => .error (.next .trailingCharacters rest)
  | rest => .error (.next .trailingCharacters rest)

/-! ## Configurations -/

/-- Takes an object or a list of settings. -/
def readDraft (text : List Char) : Except Fault (Draft × List Char) :=
  match skipBlanks text with
  | [] => .error (.next .endInValue [])
  | '{' :: rest => readMembers true .empty rest
  | '[' :: rest => do
    let (d, rest) ← readElements true .empty Field.all rest
    return (d, ← readListEnd rest)
  | rest => .error (unexpected "struct Config" rest)

/-- The configuration that a whole text is. -/
def read (text : List Char) : Except Fault Config := do
  let (d, rest) ← readDraft text
  match skipBlanks rest with
  | [] => return d.config
  | rest => .error (.next .trailingCharacters rest)

/-- The configuration that a text stands for, if the text can be read and the configuration is
valid. The text has no path of its own. -/
def ofJson (text : String) : Except ConfigError Config := do
  match read text.toList with
  | .error f => .error (.invalidFile "<inline>" (f.message text))
  | .ok c =>
    c.validate
    return c

end Keychord.Config
