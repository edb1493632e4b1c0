import Keychord.Proofs.Builder.Runs

/-!
# Reading that is interrupted

A failure of the source may come between a trigger and the token it looks ahead to.  `Extends` says
what one call of `extend` does, failure or not: it feeds the keys that it comes upon, up to the one
that appends a chord.  A failed call has fed its keys like any other, so the calls together feed all
keys of a script, whatever failures there are among them (`extendTimes_loses_nothing`).
-/

namespace Keychord

namespace Builder

variable {c : Config} {b b' : Builder} {script rest : Script} {result : Except InputError Chord}

/-! ## One call -/

/-- What a call of `extend` makes of a builder and a script, with its result and the rest.  It waits
for a key that appends a chord, and stops there; the failure of the source on which it stops before
that is its own, and so is that of a source that is used up. -/
inductive Extends (c : Config) (b : Builder) :
    Script → Except InputError Chord → Builder → Script → Prop
  | appended {waited rest : Script} {key : Key} {chord : Chord}
      (heard : ∀ cause, Item.failure cause ∉ waited)
      (waits : (b.feedAll c waited.keys).sequence = b.sequence)
      (step : ((b.feedAll c waited.keys).feed c key).step = .appended chord) :
      Extends c b (waited ++ .key key :: rest) (.ok chord) { sequence := b.sequence.push chord }
        rest
  | failed {waited rest : Script} {cause : InputError}
      (heard : ∀ cause, Item.failure cause ∉ waited)
      (waits : (b.feedAll c waited.keys).sequence = b.sequence) :
      Extends c b (waited ++ .failure cause :: rest) (.error cause) (b.feedAll c waited.keys) rest
  | closed {waited : Script}
      (heard : ∀ cause, Item.failure cause ∉ waited)
      (waits : (b.feedAll c waited.keys).sequence = b.sequence) :
      Extends c b waited (.error .closed) (b.feedAll c waited.keys) []

namespace Extends

theorem cons {item : Item} {b₁ : Builder} (hHeard : ∀ cause, Item.failure cause ≠ item)
    (hItem : b.feedAll c (Script.keys [item]) = b₁) (hWaits : b₁.sequence = b.sequence)
    (h : Extends c b₁ script result b' rest) : Extends c b (item :: script) result b' rest := by
  have hKeys (waited : Script) :
      b₁.feedAll c waited.keys = b.feedAll c (Script.keys (item :: waited)) := by
    rw [← List.singleton_append, Script.keys_append, feedAll_append, hItem]
  have hNone (waited : Script) (hWaited : ∀ cause, Item.failure cause ∉ waited) :
      ∀ cause, Item.failure cause ∉ item :: waited := by
    intro cause
    rw [List.mem_cons, not_or]
    exact ⟨hHeard cause, hWaited cause⟩
  cases h with
  | @appended waited rest key chord heard waits step =>
    rw [hKeys] at waits step
    rw [hWaits]
    exact .appended (hNone waited heard) (waits.trans hWaits) step
  | @failed waited rest cause heard waits =>
    rw [hKeys] at waits ⊢
    exact .failed (hNone waited heard) (waits.trans hWaits)
  | closed heard waits =>
    rw [hKeys] at waits ⊢
    exact .closed (hNone script heard) (waits.trans hWaits)

end Extends

theorem extends_extend (c : Config) (b : Builder) (script : Script) :
    Extends c b script (b.extend c script).2.result (b.extend c script).1
      (b.extend c script).2.rest := by
  induction script generalizing b with
  | nil => exact .closed (fun _ => List.not_mem_nil) rfl
  | cons item script ih =>
    cases item with
    | failure cause => exact @Extends.failed c b [] script cause (fun _ => List.not_mem_nil) rfl
    | ignored event => exact (ih b).cons (by rintro _ ⟨⟩) rfl rfl
    | key key =>
      rcases b.feed_cases c key with ⟨m, hStep, hBuilder⟩ | ⟨-, m, hStep, hBuilder⟩
      · simp only [extend, hStep, hBuilder]
        exact @Extends.appended c b [] script key _ (fun _ => List.not_mem_nil) rfl hStep
      · have hLater := ih (b.feed c key).builder
        have hWaits : (b.feed c key).builder.sequence = b.sequence := by rw [hBuilder]
        simp only [extend, hStep]
        exact hLater.cons (by rintro _ ⟨⟩) rfl hWaits

/-- The items that a call reads have all of their keys fed, and the chord that it gives is the only
one that these append. -/
theorem Extends.exists_items (h : Extends c b script result b' rest) :
    ∃ items, script = items ++ rest ∧ b' = b.feedAll c items.keys ∧
      b'.sequence.chords = b.sequence.chords ++ result.toOption.toList ∧
      (script ≠ [] → items ≠ []) := by
  cases h with
  | @appended waited rest key chord heard waits step =>
    refine ⟨waited ++ [.key key], by simp, ?_, rfl, fun _ => by simp⟩
    rcases (b.feedAll c waited.keys).feed_cases c key with ⟨m, hStep, hBuilder⟩ | ⟨-, m, hStep, -⟩
    · rw [hStep, Step.appended.injEq] at step
      rw [Script.keys_append, feedAll_append, ← waits, ← step]
      exact hBuilder.symm
    · rw [hStep] at step
      cases step
  | @failed waited rest cause heard waits =>
    refine ⟨waited ++ [.failure cause], by simp, ?_, ?_, fun _ => by simp⟩
    · rw [Script.keys_append]
      exact congrArg (b.feedAll c) (List.append_nil _).symm
    · rw [waits]
      exact (List.append_nil _).symm
  | closed heard waits =>
    refine ⟨script, (List.append_nil _).symm, rfl, ?_, id⟩
    rw [waits]
    exact (List.append_nil _).symm

/-! ## Calls one after the other -/

/-- What some calls of `extend` have come to: their results, the builder and the rest of the script
as the last one has left them. -/
structure Extended where
  results : List (Except InputError Chord)
  builder : Builder
  rest : Script

/-- Calls of `extend`, each of which goes on where the one before it has stopped, failed or not. -/
def extendTimes (b : Builder) (c : Config) (script : Script) : Nat → Extended
  | 0 => ⟨[], b, script⟩
  | n + 1 =>
    let calls := b.extendTimes c script n
    let next := calls.builder.extend c calls.rest
    ⟨calls.results ++ [next.2.result], next.1, next.2.rest⟩

/-- Every call that has something left to read reads some of it. -/
theorem length_rest_extend (c : Config) (b : Builder) (script : Script) :
    (b.extend c script).2.rest.length ≤ script.length - 1 := by
  obtain ⟨items, hScript, -, -, hItems⟩ := (extends_extend c b script).exists_items
  have hLength := congrArg List.length hScript
  rw [List.length_append] at hLength
  by_cases hNil : script = []
  · have hZero := congrArg List.length hNil
    rw [List.length_nil] at hZero
    omega
  · have hPositive := List.length_pos_of_ne_nil (hItems hNil)
    omega

theorem length_rest_extendTimes (b : Builder) (c : Config) (script : Script) (n : Nat) :
    (b.extendTimes c script n).rest.length ≤ script.length - n := by
  induction n with
  | zero => exact le_rfl
  | succ n ih =>
    have hCall := length_rest_extend c (b.extendTimes c script n).builder
      (b.extendTimes c script n).rest
    rw [extendTimes]
    dsimp only
    omega

theorem exists_items_extendTimes (b : Builder) (c : Config) (script : Script) (n : Nat) :
    let calls := b.extendTimes c script n
    ∃ items, script = items ++ calls.rest ∧ calls.builder = b.feedAll c items.keys ∧
      calls.builder.sequence.chords =
        b.sequence.chords ++ calls.results.filterMap Except.toOption := by
  induction n with
  | zero => exact ⟨[], rfl, rfl, (List.append_nil _).symm⟩
  | succ n ih =>
    obtain ⟨before, hBefore, hBuilder, hChords⟩ := ih
    obtain ⟨items, hItems, hFed, hChord, -⟩ :=
      (extends_extend c (b.extendTimes c script n).builder
        (b.extendTimes c script n).rest).exists_items
    refine ⟨before ++ items, ?_, ?_, ?_⟩
    · rw [extendTimes, List.append_assoc, ← hItems, ← hBefore]
    · rw [extendTimes, Script.keys_append, feedAll_append, ← hBuilder, ← hFed]
    · rw [extendTimes, List.filterMap_append, ← List.append_assoc, ← hChords, hChord]
      rfl

/-- However often `extend` is called on a script, going on after each failure: the calls have fed
the keys of all that they have read, as if these had been fed one by one, and have given the chords
that were appended, in their order.  As many calls as there are items read all of them.  The next
call appends the chord that it gives and reads nothing beyond its key, or it gives the failure on
which it stops and leaves the chords as they are, with whatever its keys have made pending. -/
theorem extendTimes_loses_nothing (b : Builder) (c : Config) (script : Script) (n : Nat) :
    let calls := b.extendTimes c script n
    let next := calls.builder.extend c calls.rest
    (∃ items, script = items ++ calls.rest ∧ calls.builder = b.feedAll c items.keys) ∧
    calls.builder.sequence.chords =
      b.sequence.chords ++ calls.results.filterMap Except.toOption ∧
    (script.length ≤ n → calls.rest = [] ∧ calls.builder = b.feedAll c script.keys) ∧
    Extends c calls.builder calls.rest next.2.result next.1 next.2.rest := by
  obtain ⟨items, hScript, hBuilder, hChords⟩ := b.exists_items_extendTimes c script n
  refine ⟨⟨items, hScript, hBuilder⟩, hChords, fun hn => ?_, extends_extend c _ _⟩
  have hLength := b.length_rest_extendTimes c script n
  have hRest : (b.extendTimes c script n).rest = [] := List.eq_nil_of_length_eq_zero (by omega)
  rw [hRest, List.append_nil] at hScript
  exact ⟨hRest, hScript ▸ hBuilder⟩

/-- The trigger of a call that was interrupted is there for the next call. -/
example :
    let calls := extendTimes {} {} [.key (.char 'g'), .failure (.interrupted "C-g"),
      .key (.char 'x'), .failure .closed] 4
    calls.results = [.error (.interrupted "C-g"), .ok ⟨.metaKey, "x"⟩, .error .closed,
      .error .closed] ∧
    calls.builder = { sequence := ⟨[⟨.metaKey, "x"⟩]⟩ } := by
  decide

end Builder

end Keychord
