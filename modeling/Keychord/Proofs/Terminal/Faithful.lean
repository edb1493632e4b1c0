import Keychord.Proofs.Episode.Actions
import Keychord.Proofs.Interpreter.Fired
import Keychord.Proofs.Interpreter.Stream
import Keychord.Proofs.Terminal.Tokens

/-!
# Keys from a terminal

Every key that a terminal lets through has the token of its key code, which can be written.  So
whatever an episode builds from terminal events is read back from its text, and the keymap answers
for what was built and for nothing else (`events_faithful`).
-/

namespace Keychord

open Keymap

variable {α : Type}

namespace Terminal

/-! ## Events -/

theorem KeyEvent.key_of_verdict {e : KeyEvent} {key : Key} (h : e.verdict = .key key) :
    e.code.key = key := by
  unfold verdict at h
  split at h
  · cases h
  · split at h
    · split at h <;> cases h
    · split at h
      · cases h
      · split at h
        · cases h
        · exact Verdict.key.inj h

theorem Event.writable_of_verdict {event : Event} {key : Key} (h : event.verdict = .key key) :
    Writable key.token := by
  cases event with
  | key e => exact KeyEvent.key_of_verdict h ▸ e.code.writable_token
  | _ => cases h

/-! ## Streams of events -/

/-- What is done with an episode at a terminal event: a key is fed, and an interrupt or the end of
the input aborts. -/
def Event.actions (store : Store α) (event : Event) : List (Episode.Action α) :=
  match event.verdict with
  | .key k => [.feed store k]
  | .interrupt _ | .close => [.abort]
  | .ignore => []

theorem Event.verdict_of_mem_keys {store : Store α} {event : Event} {key : Key}
    (h : key ∈ (event.actions store).flatMap Episode.Action.keys) : event.verdict = .key key := by
  unfold actions at h
  split at h
  · next k hKey =>
    obtain rfl := List.mem_singleton.mp h
    exact hKey
  · simp [Episode.Action.keys] at h
  · simp [Episode.Action.keys] at h
  · simp at h

theorem Event.config_after_actions (e : Episode) (store : Store α) (event : Event) :
    (e.after (event.actions store)).config = e.config := by
  unfold actions
  split
  · next key _ => exact (e.feed_spec store key).1
  · rfl
  · rfl
  · rfl

theorem config_after_events (e : Episode) (store : Store α) (events : List Event) :
    (e.after (events.flatMap (Event.actions store))).config = e.config := by
  induction events generalizing e with
  | nil => rfl
  | cons event events ih =>
    rw [List.flatMap_cons, Episode.after_append, ih, Event.config_after_actions]

theorem writable_of_mem_events {store : Store α} {events : List Event} {key : Key}
    (h : key ∈ (events.flatMap (Event.actions store)).flatMap Episode.Action.keys) :
    Writable key.token := by
  rw [List.flatMap_assoc] at h
  obtain ⟨event, -, hKey⟩ := List.mem_flatMap.mp h
  exact Event.writable_of_verdict (Event.verdict_of_mem_keys hKey)

theorem Event.verdict_of_item {event : Event} {key : Key} (h : event.item = .key key) :
    event.verdict = .key key := by
  unfold item at h
  split at h
  · next k hKey =>
    obtain rfl := Item.key.inj h
    exact hKey
  · cases h
  · cases h
  · cases h

theorem writable_of_mem_heard {events : List Event} {key : Key}
    (h : key ∈ Script.heard (events.map Event.item)) : Writable key.token := by
  obtain ⟨event, -, hItem⟩ := List.mem_map.mp (Script.mem_of_mem_heard h)
  exact Event.writable_of_verdict (Event.verdict_of_item hItem)

/-! ## Episodes -/

/-- What an episode has built when the next key has come is read back from its text. -/
theorem parse_description_of_events (c : Config) (store : Store α) (events : List Event)
    {event : Event} {key : Key} (hKey : event.verdict = .key key) :
    let e := Episode.after { config := c } (events.flatMap (Event.actions store))
    let s := (e.builder.feed e.config key).builder.sequence
    s.chords ≠ [] → KeySequence.parse s.description = .ok s := by
  intro e s hNil
  refine KeySequence.Writable.parse_description ⟨hNil, fun chord hChord => ?_⟩
  obtain ⟨k, hk, hToken⟩ := Episode.exists_token_eq_of_mem_feed c _ hChord
  rw [← hToken]
  rcases List.mem_append.mp hk with hk | hk
  · exact writable_of_mem_events hk
  · obtain rfl := List.mem_singleton.mp hk
    exact Event.writable_of_verdict hKey

/-- Terminal events bring an episode that begins to a command exactly if the first of their keys
build a sequence that has this command and nothing that begins the sequence has ended the episode
before. -/
theorem finish_events_iff {h : History α} (hSound : h.Sound) {e : Episode}
    (hIdle : e.isBuilding = false) (events : List Event) (r : Resolved α) (rest : Script) :
    (e.finish h.keymap.resolve (events.map Event.item)).seen = (.ok r, rest) ↔
      ∃ struck s, struck <+: Script.heard (events.map Event.item) ∧
        Builder.feedAll {} e.config struck = { sequence := s } ∧
        h.bound s = some r.command ∧
        (∀ t : KeySequence, t.chords ≠ [] → t.ProperPrefix s →
          h.keymap.resolve t.description = .nested) ∧
        r = ⟨s.description, r.command, struck.length⟩ ∧
        rest = Script.dropKeys struck.length (events.map Event.item) := by
  rw [Episode.finish_of_idle _ _ hIdle]
  constructor
  · intro hFinish
    obtain ⟨struck, s, hHeard, hRest, hText, hKeys, hFires⟩ :=
      Episode.exists_fires_of_finish hFinish
    have hs : s.Writable := Builder.writable_of_feedAll hFires.built hFires.ne_nil
      fun key hKey => writable_of_mem_heard (hHeard.subset hKey)
    have hBound := (hSound.resolve_eq_command_iff hs).mp hFires.command
    have hMem := History.mem_domain.mpr ⟨_, hBound⟩
    refine ⟨struck, s, hHeard, hFires.built, hBound,
      fun t hNil hPrefix => hSound.resolve_of_properPrefix hMem hNil hPrefix, ?_, hRest⟩
    obtain ⟨text, command, keys⟩ := r
    obtain rfl := hText
    obtain rfl : keys = struck.length := hKeys.trans (Nat.zero_add _)
    rfl
  · rintro ⟨struck, s, hHeard, hBuilt, hBound, -, hr, rfl⟩
    rw [Episode.finish_of_fires (hSound.fires_of_feedAll hBound hBuilt) hHeard, hr]
    exact congrArg (fun n => (Except.ok (⟨s.description, r.command, n⟩ : Resolved α), _))
      (Nat.zero_add _)

/-- Every key that a terminal lets through has a token that can be written, and no two key codes
that are let through have the same token.  So, under any configuration, valid or not, and with any
keymap that calls of `bind` have made, the text of what an episode has built from terminal events is
read back as what was built; and the events that come after the end of an episode bring the next one
to a command exactly if the first keys of them build a sequence that is bound to this command, and
nothing that begins that sequence has ended the episode before. -/
theorem events_faithful (calls : List (String × α)) (c : Config) :
    (∀ (event : Event) key, event.verdict = .key key → Writable key.token) ∧
    (∀ (e e' : KeyEvent) key key', e.verdict = .key key → e'.verdict = .key key' →
      e.code ≠ e'.code → key.token ≠ key'.token) ∧
    ∀ events : List Event,
      let store := (History.run calls).keymap.resolve
      let e := Episode.after { config := c } (events.flatMap (Event.actions store))
      (∀ (event : Event) key, event.verdict = .key key →
        let s := (e.builder.feed e.config key).builder.sequence
        s.chords ≠ [] → KeySequence.parse s.description = .ok s) ∧
      (e.isBuilding = false → ∀ (more : List Event) (r : Resolved α) (rest : Script),
        (e.finish store (more.map Event.item)).seen = (.ok r, rest) ↔
          ∃ struck s, struck <+: Script.heard (more.map Event.item) ∧
            Builder.feedAll {} c struck = { sequence := s } ∧
            (History.run calls).bound s = some r.command ∧
            (∀ t : KeySequence, t.chords ≠ [] → t.ProperPrefix s →
              store t.description = .nested) ∧
            r = ⟨s.description, r.command, struck.length⟩ ∧
            rest = Script.dropKeys struck.length (more.map Event.item)) := by
  refine ⟨fun event key => Event.writable_of_verdict, ?_, fun events => ⟨?_, ?_⟩⟩
  · rintro e e' key key' hKey hKey' hCode hToken
    rw [← KeyEvent.key_of_verdict hKey, ← KeyEvent.key_of_verdict hKey'] at hToken
    exact hCode (KeyCode.token_injective hToken)
  · exact fun event key hKey => parse_description_of_events c _ events hKey
  · intro hIdle more r rest
    have hFinish := finish_events_iff (History.sound_run calls) hIdle more r rest
    rwa [config_after_events] at hFinish

/-- Events that let no key through may come between the two keys of a binding. -/
theorem events_fire_save :
    let store := (History.run [("C-x C-s", "save")]).keymap.resolve
    let x : KeyEvent := { code := .char 'x' }
    let enter : KeyEvent := { code := .enter }
    let more : List Event :=
      [.key x, .key { x with kind := .release }, .resize 80 24, .key { code := .char 's' },
        .key enter]
    let s : KeySequence := ⟨[⟨.control, "x"⟩]⟩
    Writable (Key.char 'x').token ∧ (Key.char 'x').token ≠ (Key.named "return").token ∧
    KeySequence.parse s.description = .ok s ∧
    (Episode.finish {} store (more.map Event.item)).seen =
      (.ok ⟨(s.push ⟨.control, "s"⟩).description, "save", 2⟩, [.key (.named "return")]) := by
  intro store x enter more s
  have hX : x.verdict = .key (.char 'x') := by decide
  have hEnter : enter.verdict = .key (.named "return") := by decide
  have hBuilt : (Builder.feed {} {} (.char 'x')).builder.sequence = s := by decide
  have hBound :
      (History.run [("C-x C-s", "save")]).bound (s.push ⟨.control, "s"⟩) = some "save" := by
    decide +kernel
  obtain ⟨hWritable, hApart, hEvents⟩ := events_faithful [("C-x C-s", "save")] {}
  obtain ⟨hParse, hFinish⟩ := hEvents []
  have hText : s.chords ≠ [] → KeySequence.parse s.description = .ok s :=
    hBuilt ▸ hParse (.key x) _ hX
  have hNested (t : KeySequence) (hNil : t.chords ≠ [])
      (hPrefix : t.ProperPrefix (s.push ⟨.control, "s"⟩)) :
      store t.description = .nested :=
    (History.sound_run _).resolve_of_properPrefix (History.mem_domain.mpr ⟨_, hBound⟩) hNil hPrefix
  refine ⟨hWritable (.key x) _ hX, hApart x enter _ _ hX hEnter (by decide), hText (by decide),
    (hFinish rfl more _ _).mpr ⟨[.char 'x', .char 's'], s.push ⟨.control, "s"⟩, by decide,
      by decide, hBound, hNested, rfl, by decide⟩⟩

end Terminal

end Keychord
