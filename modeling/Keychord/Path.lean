import Keychord.Text.Alphanumeric

/-!
# Paths

A path can refer to environment variables, as `$NAME`, as `${NAME}` or as `${NAME:-default}`, and
begin with `~` for the home directory. Variables are put in once, from left to right; a variable
that is unset and has no default leaves the whole path as it was given. A `~` counts only if the
path that was given begins with it.
-/

namespace Keychord.Path

/-- What a path can refer to: the value of every variable that is set, and the home directory. -/
structure Environment where
  value : String → Option String
  home : Option String

/-- The environment of a user. The home directory is the value of `HOME`, unless that is unset or
empty; otherwise it is the one that is on record for the user, if there is one. -/
def Environment.ofVariables (value : String → Option String) (onRecord : Option String) :
    Environment where
  value := value
  home := ((value "HOME").filter fun directory => directory ≠ "").or onRecord

/-- The characters of a variable's name outside of braces. -/
def isNameChar (c : Char) : Bool := Text.isAlphanumeric c || c = '_'

/-- What a text begins with, up to the first `}`, and the text after that. -/
def spanBrace? : List Char → Option (List Char × List Char)
  | [] => none
  | '}' :: rest => some ([], rest)
  | c :: text => (spanBrace? text).map fun (inner, rest) => (c :: inner, rest)

/-- Cuts a text at its first `:-`. -/
def spanDefault? : List Char → Option (List Char × List Char)
  | [] => none
  | ':' :: '-' :: rest => some ([], rest)
  | c :: text => (spanDefault? text).map fun (name, rest) => (c :: name, rest)

/-- The value of what stands between braces: a name, or a name that is not empty with a default. -/
def braceValue? (env : Environment) (inner : List Char) : Option (List Char) :=
  match spanDefault? inner with
  | some (c :: name, fallback) =>
    some (((env.value (String.ofList (c :: name))).map String.toList).getD fallback)
  | _ => (env.value (String.ofList inner)).map String.toList

theorem spanBrace?_length {text inner rest : List Char} (h : spanBrace? text = some (inner, rest)) :
    rest.length < text.length := by
  induction text generalizing inner with
  | nil => contradiction
  | cons c text ih =>
    unfold spanBrace? at h
    split at h
    · contradiction
    · next r he =>
      injection he with _ he
      injection h with h
      injection h with _ h
      subst he h
      simp
    · next c' t _ he =>
      injection he with _ he
      subst he
      cases hs : spanBrace? text with
      | none => simp [hs] at h
      | some p =>
        simp only [hs, Option.map_some, Option.some.injEq, Prod.mk.injEq] at h
        have := @ih p.1 (by rw [hs, ← h.2])
        simp only [List.length_cons]
        omega

/-- Puts the values of variables into a text; there is no answer when a variable without default is
unset. A dollar sign that begins no reference stands for itself, and two of them for one. -/
def substitute (env : Environment) (text : List Char) : Option (List Char) :=
  match text with
  | [] => some []
  | '$' :: '{' :: rest =>
    match _ : spanBrace? rest with
    | none => (substitute env rest).map (['$', '{'] ++ ·)
    | some (inner, rest') => do
      let value ← braceValue? env inner
      return value ++ (← substitute env rest')
  | '$' :: '$' :: rest => (substitute env rest).map ('$' :: ·)
  | '$' :: c :: rest =>
    if isNameChar c then do
      let name := c :: rest.takeWhile isNameChar
      let value ← env.value (String.ofList name)
      return value.toList ++ (← substitute env (rest.dropWhile isNameChar))
    else (substitute env (c :: rest)).map ('$' :: ·)
  | c :: rest => (substitute env rest).map (c :: ·)
termination_by text.length
decreasing_by
  · simp only [List.length_cons]
    omega
  · have := spanBrace?_length ‹_›
    simp only [List.length_cons]
    omega
  · simp only [List.length_cons]
    omega
  · have := (List.dropWhile_suffix (p := isNameChar) (l := rest)).length_le
    simp only [List.length_cons]
    omega
  · simp
  · simp

/-- The names of variables that a path may ask for, and perhaps more. -/
def references : List Char → List String
  | [] => []
  | '$' :: rest =>
    let braced :=
      match spanBrace? rest.tail with
      | some (inner, _) => [inner, ((spanDefault? inner).map Prod.fst).getD inner]
      | none => []
    (rest.takeWhile isNameChar :: braced).map String.ofList ++ references rest
  | _ :: rest => references rest

/-- Puts the home directory in the place of a `~` that stands alone or before a slash. -/
def expandHome (home : Option String) (text : List Char) : List Char :=
  match text, home with
  | ['~'], some home => home.toList
  | '~' :: '/' :: rest, some home => home.toList ++ '/' :: rest
  | _, _ => text

/-- A path with its variables and its `~` put in. -/
def expand (env : Environment) (raw : String) : String :=
  match substitute env raw.toList with
  | none => raw
  | some text =>
    String.ofList (if raw.toList.head? = some '~' then expandHome env.home text else text)

/-- One more component under a directory; a slash at the end of the directory is not doubled. -/
def join (directory component : String) : String :=
  match directory.toList.getLast? with
  | none | some '/' => directory ++ component
  | some _ => directory ++ "/" ++ component

end Keychord.Path
