import Mathlib.Data.List.Infix
import Mathlib.Data.List.TakeWhile
import Keychord.Path

/-!
# Expanding a path

A path is cut from left to right into pieces that stand for themselves and references to variables
(`Scan`); which pieces these are is a matter of the path alone.  The values of the variables are put
in for the references once (`Scan.substitute_eq`), so nothing in a value is a reference, and a
reference without a value leaves no text at all.
-/

namespace Keychord.Path

/-! ## Pieces -/

/-- What a path is made of. -/
inductive Piece where
  | literal (text : List Char)
  /-- A reference to a variable, with the default that it gives. -/
  | reference (name : String) (fallback : Option (List Char))

namespace Piece

/-- A reference without a default to a variable that is unset. -/
def IsUnset (env : Environment) (p : Piece) : Prop :=
  ∃ name, p = .reference name none ∧ env.value name = none

/-- The text that a piece stands for: a variable that is unset has its default. -/
def text (env : Environment) : Piece → List Char
  | .literal text => text
  | .reference name fallback =>
    match env.value name with
    | some value => value.toList
    | none => fallback.getD []

/-- The text that a piece stands for, if it has one. -/
def text? (env : Environment) : Piece → Option (List Char)
  | .literal text => some text
  | .reference name fallback => ((env.value name).map String.toList).or fallback

theorem text?_of_isUnset {env : Environment} {p : Piece} (h : p.IsUnset env) :
    p.text? env = none := by
  obtain ⟨name, rfl, hName⟩ := h
  simp [text?, hName]

theorem text?_of_not_isUnset {env : Environment} {p : Piece} (h : ¬ p.IsUnset env) :
    p.text? env = some (p.text env) := by
  cases p with
  | literal text => rfl
  | reference name fallback =>
    cases hName : env.value name with
    | some value => simp [text?, text, hName]
    | none =>
      cases fallback with
      | some fallback => simp [text?, text, hName]
      | none => exact absurd ⟨name, rfl, hName⟩ h

end Piece

/-- What stands between braces is a name, or a name that is not empty with a default behind the
first `:-`. -/
inductive Braced : List Char → Piece → Prop
  | withDefault {name fallback : List Char} (nonempty : name ≠ [])
      (first : ¬ [':', '-'] <:+: name ++ [':']) :
      Braced (name ++ ':' :: '-' :: fallback) (.reference (String.ofList name) (some fallback))
  | bare {inner : List Char} (noDefault : [':', '-'] <+: inner ∨ ¬ [':', '-'] <:+: inner) :
      Braced inner (.reference (String.ofList inner) none)

/-- What a path begins with, and the rest of it.  A reference in braces ends with the first closing
one, a reference without braces goes as far as a name can. -/
inductive Begins : List Char → Piece → List Char → Prop
  | braced {inner rest : List Char} {piece : Piece} (closed : '}' ∉ inner)
      (inside : Braced inner piece) : Begins ('$' :: '{' :: (inner ++ '}' :: rest)) piece rest
  | unclosed {rest : List Char} (unclosed : '}' ∉ rest) :
      Begins ('$' :: '{' :: rest) (.literal ['$', '{']) rest
  | dollars (rest : List Char) : Begins ('$' :: '$' :: rest) (.literal ['$']) rest
  | named {name rest : List Char} (nonempty : name ≠ []) (isName : ∀ c ∈ name, isNameChar c = true)
      (longest : ∀ c ∈ rest.head?, isNameChar c = false) :
      Begins ('$' :: (name ++ rest)) (.reference (String.ofList name) none) rest
  | dollar {rest : List Char}
      (alone : ∀ c ∈ rest.head?, c ≠ '{' ∧ c ≠ '$' ∧ isNameChar c = false) :
      Begins ('$' :: rest) (.literal ['$']) rest
  | char {c : Char} {rest : List Char} (other : c ≠ '$') : Begins (c :: rest) (.literal [c]) rest

/-- A path cut into pieces, from left to right. -/
inductive Scan : List Char → List Piece → Prop
  | nil : Scan [] []
  | cons {path rest : List Char} {piece : Piece} {pieces : List Piece}
      (head : Begins path piece rest) (tail : Scan rest pieces) : Scan path (piece :: pieces)

/-! ## Between braces -/

theorem spanBrace?_eq_none {path : List Char} (h : '}' ∉ path) : spanBrace? path = none := by
  induction path with
  | nil => rfl
  | cons c path ih =>
    rw [List.mem_cons, not_or] at h
    rw [spanBrace?, ih h.2]
    · rfl
    · exact fun hc => h.1 hc.symm

theorem spanBrace?_append {inner : List Char} (h : '}' ∉ inner) (rest : List Char) :
    spanBrace? (inner ++ '}' :: rest) = some (inner, rest) := by
  induction inner with
  | nil => rfl
  | cons c inner ih =>
    rw [List.mem_cons, not_or] at h
    rw [List.cons_append, spanBrace?, ih h.2]
    · rfl
    · exact fun hc => h.1 hc.symm

theorem spanDefault?_of_prefix {inner : List Char} (h : [':', '-'] <+: inner) :
    ∃ rest, spanDefault? inner = some ([], rest) := by
  obtain ⟨rest, rfl⟩ := h
  exact ⟨rest, rfl⟩

theorem spanDefault?_cons {c : Char} {inner : List Char} (h : ¬ [':', '-'] <+: c :: inner) :
    spanDefault? (c :: inner) = (spanDefault? inner).map fun (name, rest) => (c :: name, rest) := by
  rw [spanDefault?]
  rintro rest rfl rfl
  exact h (List.prefix_append [':', '-'] rest)

theorem spanDefault?_eq_none {inner : List Char} (h : ¬ [':', '-'] <:+: inner) :
    spanDefault? inner = none := by
  induction inner with
  | nil => rfl
  | cons c inner ih =>
    rw [List.infix_cons_iff, not_or] at h
    rw [spanDefault?_cons h.1, ih h.2]
    rfl

theorem spanDefault?_append {name : List Char} (h : ¬ [':', '-'] <:+: name ++ [':'])
    (fallback : List Char) :
    spanDefault? (name ++ ':' :: '-' :: fallback) = some (name, fallback) := by
  induction name with
  | nil => rfl
  | cons c name ih =>
    rw [List.cons_append, List.infix_cons_iff, not_or] at h
    have hFirst : ¬ [':', '-'] <+: c :: (name ++ ':' :: '-' :: fallback) := by
      intro hPrefix
      apply h.1
      cases name with
      | nil => simp at hPrefix
      | cons d name => simpa using hPrefix
    rw [List.cons_append, spanDefault?_cons hFirst, ih h.2]
    rfl

theorem exists_first_default {inner : List Char} (h : [':', '-'] <:+: inner) :
    ∃ name fallback, inner = name ++ ':' :: '-' :: fallback ∧ ¬ [':', '-'] <:+: name ++ [':'] := by
  induction inner with
  | nil => simp at h
  | cons c inner ih =>
    by_cases hFirst : [':', '-'] <+: c :: inner
    · obtain ⟨fallback, hInner⟩ := hFirst
      exact ⟨[], fallback, hInner.symm, by decide⟩
    · obtain ⟨name, fallback, rfl, hName⟩ := ih ((List.infix_cons_iff.mp h).resolve_left hFirst)
      refine ⟨c :: name, fallback, rfl, ?_⟩
      rw [List.cons_append, List.infix_cons_iff, not_or]
      refine ⟨fun hPrefix => hFirst (hPrefix.trans ?_), hName⟩
      exact ⟨'-' :: fallback, by simp⟩

theorem Braced.braceValue?_eq {inner : List Char} {piece : Piece} (h : Braced inner piece)
    (env : Environment) : braceValue? env inner = piece.text? env := by
  cases h with
  | @withDefault name fallback nonempty first =>
    rw [braceValue?, spanDefault?_append first]
    cases name with
    | nil => exact absurd rfl nonempty
    | cons c name => cases env.value (String.ofList (c :: name)) <;> simp [Piece.text?]
  | bare noDefault =>
    rw [Piece.text?, Option.or_none]
    rcases noDefault with hPrefix | hNone
    · obtain ⟨rest, hSpan⟩ := spanDefault?_of_prefix hPrefix
      rw [braceValue?, hSpan]
    · rw [braceValue?, spanDefault?_eq_none hNone]

theorem exists_braced (inner : List Char) : ∃ piece, Braced inner piece := by
  by_cases hPrefix : [':', '-'] <+: inner
  · exact ⟨_, .bare (Or.inl hPrefix)⟩
  · by_cases hInfix : [':', '-'] <:+: inner
    · obtain ⟨name, fallback, rfl, hFirst⟩ := exists_first_default hInfix
      refine ⟨_, .withDefault ?_ hFirst⟩
      rintro rfl
      exact hPrefix (List.prefix_append [':', '-'] fallback)
    · exact ⟨_, .bare (Or.inr hInfix)⟩

/-! ## What a path begins with -/

/-- The two characters that a dollar sign can have behind it belong to no name. -/
theorem isNameChar_eq_false {c : Char} (h : c ∈ ['{', '$']) : isNameChar c = false := by
  rw [isNameChar, Text.isAlphanumeric, Text.CodePoints.contains, ← Array.any_toList]
  simp only [List.mem_cons, List.not_mem_nil, or_false] at h
  rcases h with rfl | rfl
  · decide +kernel
  · decide +kernel

theorem exists_longest (p : Char → Bool) {c : Char} (h : p c = true) (path : List Char) :
    ∃ run rest, c :: path = run ++ rest ∧ run ≠ [] ∧ (∀ d ∈ run, p d = true) ∧
      ∀ d ∈ rest.head?, p d = false := by
  refine ⟨(c :: path).takeWhile p, (c :: path).dropWhile p, List.takeWhile_append_dropWhile.symm,
    by simp [h], fun d hd => List.mem_takeWhile_imp hd, ?_⟩
  intro d hd
  have hNot := List.head?_dropWhile_not p (c :: path)
  rw [Option.mem_def.mp hd] at hNot
  simpa using hNot

theorem exists_begins (c : Char) (path : List Char) :
    ∃ piece rest, Begins (c :: path) piece rest ∧ rest.length ≤ path.length := by
  by_cases hDollar : c = '$'
  · subst hDollar
    cases path with
    | nil => exact ⟨_, [], .dollar (by simp), le_rfl⟩
    | cons d path =>
      by_cases hBrace : d = '{'
      · subst hBrace
        by_cases hClosed : '}' ∈ path
        · obtain ⟨inner, rest, rfl, hInner⟩ := List.eq_append_cons_of_mem hClosed
          obtain ⟨piece, hPiece⟩ := exists_braced inner
          exact ⟨piece, rest, .braced hInner hPiece, by simp; omega⟩
        · exact ⟨_, path, .unclosed hClosed, by simp⟩
      · by_cases hDollars : d = '$'
        · subst hDollars
          exact ⟨_, path, .dollars path, by simp⟩
        · cases hName : isNameChar d with
          | true =>
            obtain ⟨name, rest, hSplit, hNonempty, hIsName, hLongest⟩ :=
              exists_longest isNameChar hName path
            rw [hSplit]
            exact ⟨_, rest, .named hNonempty hIsName hLongest, by simp⟩
          | false =>
            refine ⟨_, d :: path, .dollar ?_, le_rfl⟩
            rintro e ⟨⟩
            exact ⟨hBrace, hDollars, hName⟩
  · exact ⟨_, path, .char hDollar, le_rfl⟩

theorem exists_scan (path : List Char) : ∃ pieces, Scan path pieces := by
  induction hLength : path.length using Nat.strongRecOn generalizing path with
  | ind length ih =>
    cases path with
    | nil => exact ⟨[], .nil⟩
    | cons c path =>
      obtain ⟨piece, rest, hHead, hRest⟩ := exists_begins c path
      rw [List.length_cons] at hLength
      obtain ⟨pieces, hTail⟩ := ih rest.length (by omega) rest rfl
      exact ⟨piece :: pieces, .cons hHead hTail⟩

/-! ## Putting the values in

In each step only the beginning of the text is unfolded, and not what is left of it. -/

section Substitute

variable (env : Environment)

theorem substitute_nil : substitute env [] = some [] := substitute.eq_def env []

theorem substitute_braces (path : List Char) :
    substitute env ('$' :: '{' :: path) =
      match spanBrace? path with
      | none => (substitute env path).map (['$', '{'] ++ ·)
      | some (inner, rest) => do
        let value ← braceValue? env inner
        return value ++ (← substitute env rest) := by
  rw [substitute.eq_def env ('$' :: '{' :: path)]
  split <;> grind

theorem substitute_dollars (path : List Char) :
    substitute env ('$' :: '$' :: path) = (substitute env path).map ('$' :: ·) := by
  rw [substitute.eq_def env ('$' :: '$' :: path)]
  split <;> grind

theorem substitute_dollar_cons {c : Char} (hBrace : c ≠ '{') (hDollar : c ≠ '$')
    (path : List Char) :
    substitute env ('$' :: c :: path) =
      if isNameChar c then do
        let value ← env.value (String.ofList (c :: path.takeWhile isNameChar))
        return value.toList ++ (← substitute env (path.dropWhile isNameChar))
      else (substitute env (c :: path)).map ('$' :: ·) := by
  rw [substitute.eq_def env ('$' :: c :: path)]
  split <;> grind

theorem substitute_dollar_nil : substitute env ['$'] = some ['$'] := by
  rw [substitute.eq_def env ['$']]
  split <;> grind [substitute_nil]

theorem substitute_cons {c : Char} (h : c ≠ '$') (path : List Char) :
    substitute env (c :: path) = (substitute env path).map (c :: ·) := by
  rw [substitute.eq_def env (c :: path)]
  split <;> grind

end Substitute

theorem takeWhile_append_of_longest {p : Char → Bool} {run rest : List Char}
    (hRun : ∀ c ∈ run, p c = true) (hRest : ∀ c ∈ rest.head?, p c = false) :
    (run ++ rest).takeWhile p = run ∧ (run ++ rest).dropWhile p = rest := by
  rw [List.takeWhile_append_of_pos hRun, List.dropWhile_append_of_pos hRun]
  cases rest with
  | nil => simp
  | cons c rest => simp [hRest c rfl]

/-- The text of the first piece goes before that of the rest. -/
theorem Begins.substitute_eq {path rest : List Char} {piece : Piece} (h : Begins path piece rest)
    (env : Environment) :
    substitute env path = do
      let text ← piece.text? env
      return text ++ (← substitute env rest) := by
  cases h with
  | braced closed inside =>
    rw [substitute_braces, spanBrace?_append closed, ← inside.braceValue?_eq]
  | unclosed unclosed =>
    rw [substitute_braces, spanBrace?_eq_none unclosed]
    exact Option.map_eq_bind
  | dollars rest =>
    rw [substitute_dollars]
    exact Option.map_eq_bind
  | @named name rest nonempty isName longest =>
    cases name with
    | nil => exact absurd rfl nonempty
    | cons c name =>
      have hName : isNameChar c = true := isName c List.mem_cons_self
      have hBrace : c ≠ '{' := by
        rintro rfl
        rw [isNameChar_eq_false (by decide)] at hName
        contradiction
      have hDollar : c ≠ '$' := by
        rintro rfl
        rw [isNameChar_eq_false (by decide)] at hName
        contradiction
      obtain ⟨hTake, hDrop⟩ :=
        takeWhile_append_of_longest (fun d hd => isName d (List.mem_cons_of_mem c hd)) longest
      rw [List.cons_append, substitute_dollar_cons env hBrace hDollar, if_pos hName, hTake, hDrop,
        Piece.text?, Option.or_none]
      cases env.value (String.ofList (c :: name)) <;> rfl
  | @dollar rest alone =>
    cases rest with
    | nil =>
      rw [substitute_dollar_nil, substitute_nil]
      rfl
    | cons c rest =>
      obtain ⟨hBrace, hDollar, hName⟩ := alone c rfl
      rw [substitute_dollar_cons env hBrace hDollar, if_neg (by simp [hName])]
      exact Option.map_eq_bind
  | @char c rest other =>
    rw [substitute_cons env other]
    exact Option.map_eq_bind

/-- The pieces of a path have their texts one after the other, if each of them has one. -/
theorem Scan.substitute_eq {path : List Char} {pieces : List Piece} (h : Scan path pieces)
    {env : Environment} (hSet : ∀ p ∈ pieces, ¬ p.IsUnset env) :
    substitute env path = some (pieces.flatMap (Piece.text env)) := by
  induction h with
  | nil => exact substitute_nil env
  | cons head tail ih =>
    rw [List.forall_mem_cons] at hSet
    rw [head.substitute_eq, Piece.text?_of_not_isUnset hSet.1, ih hSet.2]
    rfl

/-- One reference without a value is enough for there to be no text, wherever it stands. -/
theorem Scan.substitute_eq_none {path : List Char} {pieces : List Piece} (h : Scan path pieces)
    {env : Environment} (hUnset : ∃ p ∈ pieces, p.IsUnset env) : substitute env path = none := by
  induction h with
  | nil => simp at hUnset
  | cons head tail ih =>
    rw [head.substitute_eq]
    rcases List.exists_mem_cons_iff .. |>.mp hUnset with hHead | hTail
    · rw [Piece.text?_of_isUnset hHead]
      rfl
    · rw [ih hTail]
      exact Option.bind_fun_none _

/-! ## The home directory -/

/-- A `~` that stands alone or before a slash is what a text begins with. -/
def BeginsWithHome (text rest : List Char) : Prop := text = '~' :: rest ∧ ∀ c ∈ rest.head?, c = '/'

theorem expandHome_eq {text rest : List Char} (h : BeginsWithHome text rest) (home : String) :
    expandHome (some home) text = home.toList ++ rest := by
  obtain ⟨rfl, hRest⟩ := h
  cases rest with
  | nil => exact (List.append_nil _).symm
  | cons c rest =>
    obtain rfl := hRest c rfl
    rfl

theorem expandHome_none (text : List Char) : expandHome none text = text := by
  unfold expandHome
  split <;> simp_all

theorem expandHome_of_not_begins {text : List Char} (h : ∀ rest, ¬ BeginsWithHome text rest)
    (home : Option String) : expandHome home text = text := by
  unfold expandHome
  split
  · next _ home => exact absurd ⟨rfl, by simp⟩ (h [])
  · next _ rest home => exact absurd ⟨rfl, by simp⟩ (h ('/' :: rest))
  · rfl

/-- Every path is cut into pieces.  If one of them is a reference without a value and without a
default, the path stays as it was given; otherwise the values take the places of the references, as
they are, and the home directory, if there is one, that of a `~`, which counts only if the path that
was given begins with one. -/
theorem expand_all_or_nothing (env : Environment) (raw : String) :
    (∃ pieces, Scan raw.toList pieces) ∧
      ∀ pieces, Scan raw.toList pieces →
        ((∃ p ∈ pieces, p.IsUnset env) → expand env raw = raw) ∧
        ((∀ p ∈ pieces, ¬ p.IsUnset env) →
          (∀ home rest, raw.toList.head? = some '~' → env.home = some home →
            BeginsWithHome (pieces.flatMap (Piece.text env)) rest →
            expand env raw = home ++ String.ofList rest) ∧
          (raw.toList.head? ≠ some '~' ∨ env.home = none ∨
              (∀ rest, ¬ BeginsWithHome (pieces.flatMap (Piece.text env)) rest) →
            expand env raw = String.ofList (pieces.flatMap (Piece.text env)))) := by
  refine ⟨exists_scan raw.toList, fun pieces hScan => ⟨fun hUnset => ?_, fun hSet => ⟨?_, ?_⟩⟩⟩
  · rw [expand, hScan.substitute_eq_none hUnset]
  · intro home rest hRaw hHome hText
    rw [expand, hScan.substitute_eq hSet]
    simp only [if_pos hRaw, hHome, expandHome_eq hText, String.ofList_append, String.ofList_toList]
  · intro hStays
    rw [expand, hScan.substitute_eq hSet]
    simp only
    split
    · next hRaw =>
      rcases hStays with hNot | hHome | hText
      · exact absurd hRaw hNot
      · rw [hHome, expandHome_none]
      · rw [expandHome_of_not_begins hText]
    · rfl

/-- The home directory takes the place of the first `~` only, and neither the value of `A` nor the
default of `B` is read again. -/
theorem expand_home_and_dollars :
    let value : String → Option String
      | "A" => some "$B~"
      | _ => none
    let env : Environment := ⟨value, some "/h"⟩
    let raw := "~/$A$\x7bB:-$A\x7d"
    let pieces :=
      [.literal ['~'], .literal ['/'], .reference "A" none, .reference "B" (some ['$', 'A'])]
    Scan raw.toList pieces ∧ (∀ p ∈ pieces, ¬ p.IsUnset env) ∧ expand env raw = "/h/$B~$A" := by
  intro value env raw pieces
  have hRaw : raw.toList =
      ['~', '/', '$', 'A', '$', '{', 'B', ':', '-', '$', 'A', '}'] := String.toList_ofList
  have hNamed : Begins ('$' :: (['A'] ++ ['$', '{', 'B', ':', '-', '$', 'A', '}']))
      (.reference "A" none) ['$', '{', 'B', ':', '-', '$', 'A', '}'] :=
    .named (by decide) (List.forall_mem_singleton.mpr (by decide +kernel)) fun c hc => by
      cases hc
      exact isNameChar_eq_false (by decide)
  have hBraced : Begins ('$' :: '{' :: (['B', ':', '-', '$', 'A'] ++ ['}']))
      (.reference "B" (some ['$', 'A'])) [] :=
    .braced (by decide) (.withDefault (List.cons_ne_nil 'B' []) (by decide))
  have hScan : Scan raw.toList pieces := by
    rw [hRaw]
    exact .cons (.char (by decide)) (.cons (.char (by decide)) (.cons hNamed (.cons hBraced .nil)))
  have hSet : ∀ p ∈ pieces, ¬ p.IsUnset env := by
    simp [pieces, env, value, Piece.IsUnset]
  have hText : BeginsWithHome (pieces.flatMap (Piece.text env)) "/$B~$A".toList :=
    ⟨by decide +kernel, by simp⟩
  refine ⟨hScan, hSet, ?_⟩
  exact (((expand_all_or_nothing env raw).2 pieces hScan).2 hSet).1 "/h" _ (by rw [hRaw]; rfl) rfl
    hText

end Keychord.Path
