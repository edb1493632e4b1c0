import Mathlib.Data.List.Forall2
import Mathlib.Data.Set.Function
import Mathlib.Logic.Equiv.Basic
import Keychord.Proofs.Episode.Groups

/-!
# Triggers are names

A token means nothing to a builder but that it is a trigger or is none.  `Builder.rename` renames
the tokens of all that was built; where the renaming takes the triggers of one configuration to
those of another, it carries every step under the one to a step under the other (`feed_rename`), and
so a whole run, step by step (`trace_rename`).
-/

namespace Keychord

variable {f : String → String} {c c' : Config} {key key' : Key} {keys keys' : List Key}

/-! ## Renaming what was built -/

/-- The chord with its token renamed. -/
def Chord.rename (f : String → String) (chord : Chord) : Chord :=
  ⟨chord.modifier, f chord.token⟩

/-- The sequence with all its tokens renamed. -/
def KeySequence.rename (f : String → String) (s : KeySequence) : KeySequence :=
  ⟨s.chords.map (Chord.rename f)⟩

theorem KeySequence.rename_push (f : String → String) (s : KeySequence) (chord : Chord) :
    (s.push chord).rename f = (s.rename f).push (chord.rename f) := by
  rw [push, rename, List.map_append]
  rfl

@[simp] theorem KeySequence.isEmpty_rename (f : String → String) (s : KeySequence) :
    (s.rename f).isEmpty = s.isEmpty := List.isEmpty_map

namespace Builder

/-- The builder with all tokens renamed that it has built in; what is pending has none. -/
def rename (f : String → String) (b : Builder) : Builder :=
  ⟨b.sequence.rename f, b.pending⟩

@[simp] theorem rename_empty (f : String → String) : rename f {} = {} := rfl

/-- The same kind of step, with the token of its chord renamed. -/
def Step.rename (f : String → String) : Step → Step
  | .needsKey => .needsKey
  | .appended chord => .appended (chord.rename f)

end Builder

/-! ## Renaming triggers -/

/-- A renaming that keeps the tokens of keys apart and takes the triggers of one configuration to
those of another. -/
structure Config.Renames (f : String → String) (c c' : Config) : Prop where
  injOn : Set.InjOn f (Set.range Key.token)
  escapeToken : f c.escapeToken = c'.escapeToken
  metaToken : f c.metaToken = c'.metaToken
  controlMetaToken : f c.controlMetaToken = c'.controlMetaToken

namespace Config.Renames

theorem token_eq_iff (h : Renames f c c') (key : Key) (text : String) :
    f key.token = f (tokenOfText text) ↔ key.token = tokenOfText text :=
  h.injOn.eq_iff ⟨key, rfl⟩ ⟨Key.ofText text, rfl⟩

theorem reading_eq (h : Renames f c c') (key : Key) (isFirst : Bool) :
    c'.reading (f key.token) isFirst = c.reading key.token isFirst := by
  have hEscape : f key.token = c'.escapeToken ↔ key.token = c.escapeToken := by
    rw [← h.escapeToken]
    exact h.token_eq_iff key c.literalEscape
  have hMeta : f key.token = c'.metaToken ↔ key.token = c.metaToken := by
    rw [← h.metaToken]
    exact h.token_eq_iff key c.metaTrigger
  have hControlMeta : f key.token = c'.controlMetaToken ↔ key.token = c.controlMetaToken := by
    rw [← h.controlMetaToken]
    exact h.token_eq_iff key c.controlMetaTrigger
  simp only [reading, hEscape, hMeta, hControlMeta]

end Config.Renames

namespace Builder

/-- A key with the renamed token does to the renamed builder what the key did to the builder. -/
theorem feed_rename (h : c.Renames f c') (hKey : f key.token = key'.token) (b : Builder) :
    ((b.rename f).feed c' key').step = (b.feed c key).step.rename f ∧
    ((b.rename f).feed c' key').builder = (b.feed c key).builder.rename f := by
  obtain ⟨s, pending⟩ := b
  cases pending with
  | some m =>
    simp only [rename, feed, append, ← hKey, KeySequence.rename_push]
    exact ⟨rfl, rfl⟩
  | none =>
    have hReading := h.reading_eq key s.isEmpty
    simp only [rename, feed, KeySequence.isEmpty_rename, ← hKey, hReading]
    cases c.reading key.token s.isEmpty with
    | apply m =>
      simp only [append, KeySequence.rename_push]
      exact ⟨rfl, rfl⟩
    | lookahead m => exact ⟨rfl, rfl⟩

/-- What each of some keys does, and the builder after it. -/
def trace (b : Builder) (c : Config) : List Key → List (Step × Builder)
  | [] => []
  | key :: keys =>
    let fed := b.feed c key
    (fed.step, fed.builder) :: fed.builder.trace c keys

/-- Triggers are interchangeable names.  Let a renaming of tokens take the triggers of one
configuration to those of another, and feed a row of keys under each, with tokens that correspond
one by one, to builders that correspond, such as two new ones.  Then every key does the same under
both: the steps are of one kind, the same modifier is pending after them, and what has been built
has the same modifiers and corresponding tokens. -/
theorem trace_rename (h : c.Renames f c')
    (hKeys : List.Forall₂ (fun key key' => f key.token = key'.token) keys keys') (b : Builder) :
    (b.rename f).trace c' keys' = (b.trace c keys).map (Prod.map (Step.rename f) (rename f)) := by
  induction hKeys generalizing b with
  | nil => rfl
  | cons hKey _ ih =>
    obtain ⟨hStep, hBuilder⟩ := feed_rename h hKey b
    rw [trace, trace, List.map_cons, hStep, hBuilder, ih]
    rfl

/-- With Meta on `m`, the old trigger `g` is an ordinary key and takes the place of `m`. -/
theorem trace_rename_swap :
    trace {} { metaTrigger := "m" } [.char 'x', .char 'm', .char 'f', .char 'g'] =
      (trace {} {} [.char 'x', .char 'g', .char 'f', .char 'm']).map
        (Prod.map (Step.rename (Equiv.swap "g" "m")) (rename (Equiv.swap "g" "m"))) := by
  have hRenames : Config.Renames (Equiv.swap "g" "m") {} { metaTrigger := "m" } :=
    ⟨(Equiv.swap "g" "m").injective.injOn, by decide, by decide, by decide⟩
  have hKeys : List.Forall₂ (fun key key' => Equiv.swap "g" "m" (Key.token key) = Key.token key')
      [.char 'x', .char 'g', .char 'f', .char 'm']
      [.char 'x', .char 'm', .char 'f', .char 'g'] := by
    simp only [List.forall₂_cons, List.forall₂_nil_left_iff, and_true]
    decide
  have hTrace := trace_rename hRenames hKeys {}
  rwa [rename_empty] at hTrace

end Builder

end Keychord
