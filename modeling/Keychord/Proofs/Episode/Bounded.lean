import Mathlib.Order.Lattice.Nat
import Keychord.Proofs.Builder.Runs
import Keychord.Proofs.Episode.Actions
import Keychord.Proofs.Interpreter.Reference
import Keychord.Proofs.Keymap.Refinement
import Keychord.Proofs.Sequence.Words

/-!
# Episodes are bounded

A keymap calls for more only where a longer sequence is bound.  It counts the words of a text, and
an episode counts the chords that it has built; if every key shows something there are at least as
many words as chords, so an episode that goes on has fewer chords than the longest bound sequence
(`Within.short`).  Each chord takes two keys at most, which bounds the keys of an episode by
`keyLimit`, whatever the triggers are.
-/

namespace Keychord

open Keymap

variable {α : Type}

namespace Keymap.History

/-- The number of chords of the longest bound sequence. -/
def longest (h : History α) : Nat := h.domain.sup KeySequence.length

/-- The number of keys that no episode exceeds. -/
def keyLimit (h : History α) : Nat := 2 * max 1 h.longest

/-- Where a keymap calls for more, a longer sequence is bound. -/
theorem Sound.length_parts_lt {h : History α} (hSound : h.Sound) {d : String}
    (hNested : h.keymap.resolve d = .nested) : (KeySequence.parts d).length < h.longest := by
  rw [hSound.resolve_eq_answer, answer] at hNested
  cases hParse : KeySequence.parse d with
  | error e =>
    rw [hParse] at hNested
    cases hNested
  | ok s =>
    simp only [hParse] at hNested
    split at hNested
    · cases hNested
    · split at hNested
      · next hBelow =>
        obtain ⟨t, ht, hPrefix⟩ := hBelow
        calc (KeySequence.parts d).length
          _ = s.length := (KeySequence.length_of_parse hParse).symm
          _ < t.length := hPrefix.length_lt
          _ ≤ h.longest := Finset.le_sup ht
      · cases hNested

end Keymap.History

namespace Episode

variable {h : History α} {e : Episode}

/-! ## One action -/

/-- An action that asks this store about a key that shows something, or that brings no key. -/
def Action.Shows (store : Store α) : Action α → Prop
  | .feed store' key => store' = store ∧ Visible key.token
  | .abort | .setConfig _ => True

/-- What holds of an episode on a keymap: its chords show something, there are fewer of them than
the longest bound sequence has, each has taken two keys at most, and one more may be pending. -/
structure Within (h : History α) (e : Episode) : Prop where
  visible : ∀ chord ∈ e.builder.sequence.chords, Visible chord.token
  short : e.builder.sequence.length < max 1 h.longest
  taken : e.taken ≤ 2 * e.builder.sequence.length + e.builder.pending.toList.length
  keys : e.keysConsumed ≤ h.keyLimit

namespace Within

theorem of_idle (hIdle : e.isBuilding = false) (hKeys : e.keysConsumed ≤ h.keyLimit) :
    Within h e := by
  have hBuilder := builder_of_idle hIdle
  refine ⟨?_, ?_, ?_, hKeys⟩
  · intro chord hChord
    rw [hBuilder] at hChord
    exact absurd hChord List.not_mem_nil
  · rw [hBuilder]
    exact Nat.lt_of_lt_of_le Nat.one_pos (Nat.le_max_left 1 h.longest)
  · rw [taken_of_idle hIdle]
    exact Nat.zero_le _

theorem taken_lt (hWithin : Within h e) : e.taken < h.keyLimit := by
  have hShort := hWithin.short
  have hTaken := hWithin.taken
  have hPending : e.builder.pending.toList.length ≤ 1 := Option.length_toList_le
  unfold History.keyLimit
  omega

theorem taken_feed (hWithin : Within h e) (key : Key) :
    let b := (e.builder.feed e.config key).builder
    e.taken + 1 ≤ 2 * b.sequence.length + b.pending.toList.length := by
  have hTaken := hWithin.taken
  rcases e.builder.feed_cases e.config key with ⟨m, -, hBuilder⟩ | ⟨hIdle, m, -, hBuilder⟩
  · have hPending : e.builder.pending.toList.length ≤ 1 := Option.length_toList_le
    rw [hBuilder]
    simp only [KeySequence.push, KeySequence.length, List.length_append, List.length_singleton,
      Option.toList_none, List.length_nil] at hTaken ⊢
    omega
  · rw [hIdle] at hTaken
    rw [hBuilder]
    simp only [Option.toList_none, Option.toList_some, List.length_nil, List.length_singleton]
      at hTaken ⊢
    omega

theorem visible_feed (hWithin : Within h e) {key : Key} (hKey : Visible key.token) :
    ∀ chord ∈ (e.builder.feed e.config key).builder.sequence.chords, Visible chord.token := by
  rcases e.builder.feed_cases e.config key with ⟨m, -, hBuilder⟩ | ⟨-, m, -, hBuilder⟩
  · rw [hBuilder]
    exact List.forall_mem_append.mpr ⟨hWithin.visible, List.forall_mem_singleton.mpr hKey⟩
  · rw [hBuilder]
    exact hWithin.visible

/-- An episode that goes on is short: it has the chords that it had, or the keymap has called for
more. -/
theorem short_feed (hWithin : Within h e) (hSound : h.Sound) {key : Key}
    (hKey : Visible key.token) :
    let b := (e.builder.feed e.config key).builder
    (b.pending = none → h.keymap.resolve b.sequence.description = .nested) →
      b.sequence.length < max 1 h.longest := by
  intro b hNested
  cases hPending : b.pending with
  | none =>
    have hWords := KeySequence.length_le_length_parts (hWithin.visible_feed hKey)
    have hLess := hSound.length_parts_lt (hNested hPending)
    exact Nat.lt_of_lt_of_le (Nat.lt_of_le_of_lt hWords hLess) (Nat.le_max_right 1 h.longest)
  | some m =>
    rcases e.builder.feed_cases e.config key with ⟨m', -, hBuilder⟩ | ⟨-, m', -, hBuilder⟩
    · rw [show b = _ from hBuilder] at hPending
      cases hPending
    · rw [show b = _ from hBuilder]
      exact hWithin.short

theorem feed (hWithin : Within h e) (hSound : h.Sound) {key : Key} (hKey : Visible key.token) :
    Within h (e.feed h.keymap.resolve key).episode := by
  have hKeys : (e.feed h.keymap.resolve key).episode.keysConsumed ≤ h.keyLimit := by
    rw [(e.feed_spec h.keymap.resolve key).2.1]
    exact hWithin.taken_lt
  have hFeed := e.feed_eq h.keymap.resolve key
  dsimp only at hFeed
  split at hFeed
  · rw [(Prod.mk.inj hFeed).2] at hKeys ⊢
    exact of_idle rfl hKeys
  · rw [(Prod.mk.inj hFeed).2] at hKeys ⊢
    exact of_idle rfl hKeys
  · next hCommand hUnbound =>
    rw [(Prod.mk.inj hFeed).2] at hKeys ⊢
    refine ⟨hWithin.visible_feed hKey, ?_, hWithin.taken_feed key, hKeys⟩
    refine hWithin.short_feed hSound hKey fun hIdle => ?_
    -- With any other answer, the episode would have ended.
    cases hStore : h.keymap.resolve (e.builder.feed e.config key).builder.sequence.description with
    | command c => exact (hCommand c hIdle hStore).elim
    | unbound => exact (hUnbound hIdle hStore).elim
    | nested => rfl

theorem act (hWithin : Within h e) (hSound : h.Sound) {a : Action α}
    (hShows : a.Shows h.keymap.resolve) : Within h (e.act a).2 := by
  cases a with
  | feed store key =>
    obtain ⟨rfl, hKey⟩ := hShows
    exact hWithin.feed hSound hKey
  | abort => exact of_idle rfl (Nat.zero_le _)
  | setConfig c =>
    rw [Episode.act]
    rcases e.trySetConfig_cases c with ⟨-, hEq⟩ | ⟨-, err, -, hEq⟩ | ⟨-, -, hEq⟩ <;> rw [hEq]
    · exact hWithin
    · exact hWithin
    · exact ⟨hWithin.visible, hWithin.short, hWithin.taken, hWithin.keys⟩

end Within

/-! ## Runs -/

theorem Within.after (hWithin : Within h e) (hSound : h.Sound) {actions : List (Action α)}
    (hShows : ∀ a ∈ actions, a.Shows h.keymap.resolve) : Within h (e.after actions) := by
  induction actions generalizing e with
  | nil => exact hWithin
  | cons a actions ih =>
    obtain ⟨hFirst, hLater⟩ := List.forall_mem_cons.mp hShows
    exact ih (hWithin.act hSound hFirst) hLater

theorem shows_map_feed {store : Store α} {keys : List Key}
    (hVisible : ∀ key ∈ keys, Visible key.token) :
    ∀ a ∈ keys.map (Action.feed store), a.Shows store := by
  rw [List.forall_mem_map]
  exact fun key hKey => ⟨rfl, hVisible key hKey⟩

theorem taken_after_of_pending {store : Store α} {keys : List Key}
    (hPending : ∀ before key later, keys = before ++ key :: later →
      ((e.after (before.map (Action.feed store))).feed store key).step = .pending) :
    (e.after (keys.map (Action.feed store))).taken = e.taken + keys.length := by
  induction keys using List.reverseRecOn with
  | nil => rfl
  | append_singleton keys key ih =>
    have hBefore := ih fun before key' later hKeys =>
      hPending before key' (later ++ [key]) (by rw [hKeys, List.append_assoc, List.cons_append])
    have hStep := hPending keys key [] rfl
    obtain ⟨-, hCount, hBuilding⟩ := feed_spec (e.after (keys.map (Action.feed store))) store key
    rw [List.map_append, after_append, List.length_append, List.length_singleton, ← Nat.add_assoc,
      ← hBefore, ← hCount]
    exact if_pos (hBuilding.mpr hStep)

/-- Of as many keys as the limit, one ends an episode. -/
theorem Within.exists_step_ne_pending (hWithin : Within h e) (hSound : h.Sound) {keys : List Key}
    (hVisible : ∀ key ∈ keys, Visible key.token) (hLength : keys.length = h.keyLimit) :
    ∃ before key later, keys = before ++ key :: later ∧
      ((e.after (before.map (Action.feed h.keymap.resolve))).feed h.keymap.resolve key).step ≠
        .pending := by
  by_contra hNone
  push Not at hNone
  have hTaken := taken_after_of_pending hNone
  have hLess := (hWithin.after hSound (shows_map_feed hVisible)).taken_lt
  omega

theorem Within.exists_items_of_finish (hWithin : Within h e) (hSound : h.Sound) {script : Script}
    (hVisible : ∀ key ∈ script.keys, Visible key.token) :
    ∃ items, script = items ++ (e.finish h.keymap.resolve script).rest ∧
      e.taken + items.keys.length ≤ h.keyLimit := by
  induction script generalizing e with
  | nil => exact ⟨[], rfl, hWithin.taken_lt.le⟩
  | cons item script ih =>
    cases item with
    | failure cause => exact ⟨[.failure cause], rfl, hWithin.taken_lt.le⟩
    | ignored event =>
      obtain ⟨items, hScript, hKeys⟩ := ih hWithin hVisible
      exact ⟨.ignored event :: items, congrArg (.ignored event :: ·) hScript, hKeys⟩
    | key key =>
      obtain ⟨hKey, hLater⟩ := List.forall_mem_cons.mp hVisible
      have hFed := hWithin.feed hSound hKey
      obtain ⟨-, hCount, hBuilding⟩ := e.feed_spec h.keymap.resolve key
      cases hStep : (e.feed h.keymap.resolve key).step with
      | pending =>
        obtain ⟨items, hScript, hKeys⟩ := ih hFed hLater
        rw [Episode.taken, if_pos (hBuilding.mpr hStep), hCount] at hKeys
        refine ⟨.key key :: items, ?_, ?_⟩
        · rw [Read.rest_eq_of_seen (finish_of_pending hStep)]
          exact congrArg (.key key :: ·) hScript
        · change e.taken + (items.keys.length + 1) ≤ h.keyLimit
          omega
      | command sequence command =>
        have hRest : (e.finish h.keymap.resolve (.key key :: script)).rest = script :=
          (Prod.mk.inj (finish_of_command hStep)).2
        exact ⟨[.key key], congrArg (.key key :: ·) hRest.symm, hWithin.taken_lt⟩
      | undefined sequence =>
        have hRest : (e.finish h.keymap.resolve (.key key :: script)).rest = script :=
          (Prod.mk.inj (finish_of_undefined hStep)).2
        exact ⟨[.key key], congrArg (.key key :: ·) hRest.symm, hWithin.taken_lt⟩

/-- On a keymap that was made by any calls of `bind`, refused ones among them, and under any
configuration, valid or not, keys that show something never make an episode take more of them than
the limit: twice the chords of the longest bound sequence, or two if nothing is bound.  So of as
many keys in a row one ends an episode, and no lookup reads more keys than that. -/
theorem keys_within_keyLimit (calls : List (String × α)) (c : Config) (actions : List (Action α))
    (hShows : ∀ a ∈ actions, a.Shows (History.run calls).keymap.resolve) :
    let h := History.run calls
    let store := h.keymap.resolve
    let e := after { config := c } actions
    e.keysConsumed ≤ h.keyLimit ∧
    (∀ keys : List Key, (∀ key ∈ keys, Visible key.token) → keys.length = h.keyLimit →
      ∃ before key later, keys = before ++ key :: later ∧
        ((e.after (before.map (Action.feed store))).feed store key).step ≠ .pending) ∧
    ∀ (i : Interpreter) (script : Script), (∀ key ∈ script.keys, Visible key.token) →
      ∃ items, script = items ++ (i.lookup store script).rest ∧
        items.keys.length ≤ h.keyLimit := by
  have hSound := History.sound_run calls
  have hNew : ∀ c, Within (History.run calls) { config := c } := fun c =>
    Within.of_idle rfl (Nat.zero_le _)
  have hWithin := (hNew c).after hSound hShows
  refine ⟨hWithin.keys, fun keys => hWithin.exists_step_ne_pending hSound, ?_⟩
  intro i script hVisible
  obtain ⟨items, hScript, hKeys⟩ := (hNew i.config).exists_items_of_finish hSound hVisible
  have hTaken : taken { config := i.config } = 0 := rfl
  rw [hTaken, Nat.zero_add] at hKeys
  exact ⟨items, hScript, hKeys⟩

/-- A bound sequence of two chords allows for four keys, which two triggers use up. -/
theorem keys_within_keyLimit_save :
    let h := History.run [("C-x C-s", "save")]
    let store := h.keymap.resolve
    let e := after {} [Action.feed store (.char 'x'), .feed store (.char 'g')]
    let keys : List Key := [.char 'f', .char 'x', .char 'G', .named "a b"]
    let script : Script := (Key.char 'x' :: .char 'g' :: keys).map .key
    h.keyLimit = 4 ∧ e.keysConsumed ≤ 4 ∧
    (∃ before key later, keys = before ++ key :: later ∧
      ((e.after (before.map (Action.feed store))).feed store key).step ≠ .pending) ∧
    ∃ items, script = items ++ (({} : Interpreter).lookup store script).rest ∧
      items.keys.length ≤ 4 := by
  intro h store e keys script
  have hLimit : h.keyLimit = 4 := by decide +kernel
  have hShows : ∀ a ∈ [Key.char 'x', .char 'g'].map (Action.feed store), a.Shows store :=
    shows_map_feed (by decide)
  obtain ⟨hKeys, hStep, hLookup⟩ := keys_within_keyLimit [("C-x C-s", "save")] {} _ hShows
  refine ⟨hLimit, hLimit ▸ hKeys, hStep keys (by decide) hLimit.symm, ?_⟩
  obtain ⟨items, hScript, hItems⟩ := hLookup {} script (by decide)
  exact ⟨items, hScript, hLimit ▸ hItems⟩

end Episode

end Keychord
