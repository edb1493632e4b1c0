import Mathlib.Algebra.Order.Ring.Nat
import Keychord.Proofs.Config.Triggers

/-!
# The spelling of a sequence

`Config.spelling` writes a sequence back into the tokens that it is struck with: a chord is struck
with its token, and with the trigger of its modifier before it.  Two kinds of chord cannot be
struck: a plain first one that is not the escape trigger, and a trigger with Control.  The others
make up the sequences that are `Strikable`.
-/

namespace Keychord

/-! ## Tokens of keys -/

/-- Every text but one is the token of a key: the name of the backspace key is not its token. -/
theorem Key.exists_token_eq_iff {token : String} :
    (∃ key : Key, key.token = token) ↔ token ≠ "backspace" := by
  constructor
  · rintro ⟨key, rfl⟩ hToken
    cases key with
    | char c =>
      change (if c = ' ' then "SPC" else String.singleton c) = "backspace" at hToken
      split at hToken
      · exact absurd hToken (by decide)
      · have hLength := congrArg String.length hToken
        rw [String.length_singleton] at hLength
        exact absurd hLength (by decide)
    | named name =>
      change (if name = "backspace" then "DEL" else name) = "backspace" at hToken
      split at hToken
      · exact absurd hToken (by decide)
      · next hName => exact hName hToken
  · intro hToken
    exact ⟨.named token, if_neg hToken⟩

theorem Key.exists_map_token_eq {tokens : List String}
    (h : ∀ token ∈ tokens, ∃ key : Key, key.token = token) :
    ∃ keys : List Key, keys.map Key.token = tokens := by
  induction tokens with
  | nil => exact ⟨[], rfl⟩
  | cons token tokens ih =>
    obtain ⟨key, hKey⟩ := h token List.mem_cons_self
    obtain ⟨keys, hKeys⟩ := ih fun t ht => h t (List.mem_cons_of_mem token ht)
    exact ⟨key :: keys, by rw [List.map_cons, hKey, hKeys]⟩

/-! ## What can be struck, and how -/

/-- The number of keys that a chord is struck with, as the first of its sequence or later. -/
def Chord.cost (isFirst : Bool) (chord : Chord) : Nat :=
  match chord.modifier with
  | .control => 1
  | .metaKey | .controlMeta => 2
  | .plain => if isFirst then 1 else 2

/-- The number of keys that a sequence is struck with. -/
def KeySequence.cost (s : KeySequence) : Nat :=
  match s.chords with
  | [] => 0
  | first :: later => first.cost true + (later.map (Chord.cost false)).sum

namespace Config

variable {c : Config} {s : KeySequence} {chord : Chord} {isFirst : Bool}

/-- The tokens that a chord is struck with, as the first of its sequence or later. -/
def strokes (c : Config) (isFirst : Bool) (chord : Chord) : List String :=
  if isFirst = true ∧ chord.modifier = .plain then [chord.token]
  else (c.triggerToken? chord.modifier).toList ++ [chord.token]

/-- The tokens that a sequence is struck with. -/
def spelling (c : Config) (s : KeySequence) : List String :=
  match s.chords with
  | [] => []
  | first :: later => c.strokes true first ++ later.flatMap (c.strokes false)

theorem spelling_of_nil (h : s.chords = []) : c.spelling s = [] := by
  simp only [spelling, h]

theorem length_strokes (c : Config) (isFirst : Bool) (chord : Chord) :
    (c.strokes isFirst chord).length = chord.cost isFirst := by
  obtain ⟨m, token⟩ := chord
  cases m <;> cases isFirst <;> rfl

theorem length_spelling (c : Config) (s : KeySequence) : (c.spelling s).length = s.cost := by
  unfold spelling KeySequence.cost
  cases s.chords with
  | nil => rfl
  | cons first later =>
    rw [List.length_append, List.length_flatMap, length_strokes]
    simp only [length_strokes]

theorem spelling_push (c : Config) (s : KeySequence) (chord : Chord) :
    c.spelling (s.push chord) = c.spelling s ++ c.strokes s.isEmpty chord := by
  obtain ⟨chords⟩ := s
  cases chords with
  | nil => simp [spelling, KeySequence.push, KeySequence.isEmpty]
  | cons first later => simp [spelling, KeySequence.push, KeySequence.isEmpty]

theorem token_mem_strokes (c : Config) (isFirst : Bool) (chord : Chord) :
    chord.token ∈ c.strokes isFirst chord := by
  unfold strokes
  split <;> simp

theorem mem_strokes {token : String} (h : token ∈ c.strokes isFirst chord) :
    token ∈ c.triggerTokens ∨ token = chord.token := by
  unfold strokes at h
  split at h
  · exact Or.inr (List.mem_singleton.mp h)
  · rcases List.mem_append.mp h with hTrigger | hToken
    · exact Or.inl (mem_triggerTokens_of_triggerToken? (Option.mem_toList.mp hTrigger))
    · exact Or.inr (List.mem_singleton.mp hToken)

theorem token_mem_spelling (c : Config) (h : chord ∈ s.chords) : chord.token ∈ c.spelling s := by
  obtain ⟨chords⟩ := s
  cases chords with
  | nil => cases h
  | cons first later =>
    rcases List.mem_cons.mp h with rfl | hLater
    · exact List.mem_append_left _ (c.token_mem_strokes true chord)
    · exact List.mem_append_right _
        (List.mem_flatMap.mpr ⟨chord, hLater, c.token_mem_strokes false chord⟩)

/-- A sequence is struck with triggers and with the tokens of its chords. -/
theorem mem_spelling {token : String} (h : token ∈ c.spelling s) :
    token ∈ c.triggerTokens ∨ ∃ chord ∈ s.chords, chord.token = token := by
  obtain ⟨chords⟩ := s
  cases chords with
  | nil => cases h
  | cons first later =>
    rcases List.mem_append.mp h with hFirst | hLater
    · rcases mem_strokes hFirst with hTrigger | rfl
      · exact Or.inl hTrigger
      · exact Or.inr ⟨first, List.mem_cons_self, rfl⟩
    · obtain ⟨chord, hChord, hToken⟩ := List.mem_flatMap.mp hLater
      rcases mem_strokes hToken with hTrigger | rfl
      · exact Or.inl hTrigger
      · exact Or.inr ⟨chord, List.mem_cons_of_mem first hChord, rfl⟩

theorem exists_map_token_eq_spelling (c : Config)
    (h : ∀ chord ∈ s.chords, ∃ key : Key, key.token = chord.token) :
    ∃ keys : List Key, keys.map Key.token = c.spelling s := by
  refine Key.exists_map_token_eq fun token hToken => ?_
  rcases mem_spelling hToken with hTrigger | ⟨chord, hChord, rfl⟩
  · exact exists_token_of_mem_triggerTokens hTrigger
  · exact h chord hChord

/-- What a chord needs to be struck at its place.  A plain chord needs the escape trigger before it,
which stands for itself at the beginning; and a token gets Control only if it is no trigger. -/
structure Strikes (c : Config) (isFirst : Bool) (chord : Chord) : Prop where
  plain : isFirst = true → chord.modifier = .plain → chord.token = c.escapeToken
  control : chord.modifier = .control → chord.token ∉ c.triggerTokens

/-- A sequence that can be struck: a plain first chord is the escape trigger, and no trigger has
Control. -/
structure Strikable (c : Config) (s : KeySequence) : Prop where
  first : ∀ chord ∈ s.chords.head?, chord.modifier = .plain → chord.token = c.escapeToken
  control : ∀ chord ∈ s.chords, chord.modifier = .control → chord.token ∉ c.triggerTokens

instance (c : Config) (s : KeySequence) : Decidable (c.Strikable s) :=
  decidable_of_iff
    ((∀ chord ∈ s.chords.head?, chord.modifier = .plain → chord.token = c.escapeToken) ∧
      ∀ chord ∈ s.chords, chord.modifier = .control → chord.token ∉ c.triggerTokens)
    ⟨fun h => ⟨h.1, h.2⟩, fun h => ⟨h.first, h.control⟩⟩

theorem strikable_empty (c : Config) : c.Strikable {} where
  first chord h := by cases h
  control chord h := by cases h

theorem strikable_push :
    c.Strikable (s.push chord) ↔ c.Strikable s ∧ c.Strikes s.isEmpty chord := by
  obtain ⟨chords⟩ := s
  have hControl : (∀ x ∈ chords ++ [chord], x.modifier = .control → x.token ∉ c.triggerTokens) ↔
      (∀ x ∈ chords, x.modifier = .control → x.token ∉ c.triggerTokens) ∧
      (chord.modifier = .control → chord.token ∉ c.triggerTokens) := by
    simp only [List.mem_append, List.mem_singleton, or_imp, forall_and, forall_eq]
  cases chords with
  | nil =>
    constructor
    · rintro ⟨hFirst, hAll⟩
      exact ⟨c.strikable_empty, fun _ => hFirst chord rfl, (hControl.mp hAll).2⟩
    · rintro ⟨-, hPlain, hChord⟩
      refine ⟨?_, hControl.mpr ⟨c.strikable_empty.control, hChord⟩⟩
      rintro _ ⟨⟩
      exact hPlain rfl
  | cons first later =>
    constructor
    · rintro ⟨hFirst, hAll⟩
      exact ⟨⟨hFirst, (hControl.mp hAll).1⟩, by rintro ⟨⟩, (hControl.mp hAll).2⟩
    · rintro ⟨⟨hFirst, hAll⟩, -, hChord⟩
      exact ⟨hFirst, hControl.mpr ⟨hAll, hChord⟩⟩

end Config

end Keychord
