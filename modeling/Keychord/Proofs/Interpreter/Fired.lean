import Keychord.Proofs.Builder.Runs
import Keychord.Proofs.Interpreter.Reference
import Keychord.Proofs.Keymap.Refinement

/-!
# Bindings that can be fired

`Fires` says of a run of keys that it builds a sequence with a command, and that the store calls for
more every time before that; these are the runs that a lookup takes for a command
(`exists_fires_of_finish` and `finish_of_fires`).  A keymap calls for more at every beginning of a
bound sequence, so a bound sequence can be fired if it can be struck.
-/

namespace Keychord

variable {α : Type}

namespace Script

theorem dropKeys_zero (script : Script) : dropKeys 0 script = script := by
  cases script <;> rfl

theorem heard_map_key (keys : List Key) : heard (keys.map Item.key) = keys := by
  induction keys with
  | nil => rfl
  | cons key keys ih => exact congrArg (key :: ·) ih

theorem mem_of_mem_heard {script : Script} {key : Key} (h : key ∈ script.heard) :
    .key key ∈ script := by
  induction script with
  | nil => cases h
  | cons item script ih =>
    cases item with
    | failure cause => cases h
    | ignored event => exact List.mem_cons_of_mem _ (ih h)
    | key k =>
      rcases List.mem_cons.mp h with rfl | h
      · exact List.mem_cons_self
      · exact List.mem_cons_of_mem _ (ih h)

theorem dropKeys_map_key (n : Nat) (keys : List Key) :
    dropKeys n (keys.map Item.key) = (keys.drop n).map Item.key := by
  induction keys generalizing n with
  | nil => cases n <;> rfl
  | cons key keys ih =>
    cases n with
    | zero => rfl
    | succ n => exact ih n

theorem dropKeys_ignored {event : Terminal.Event} {script : Script} {struck : List Key}
    (h : struck ≠ []) :
    dropKeys struck.length (.ignored event :: script) = dropKeys struck.length script := by
  cases struck with
  | nil => exact absurd rfl h
  | cons key struck => rfl

end Script

/-! ## Runs that fire a command -/

namespace Builder

/-- A run of keys, the last of which completes a sequence that has a command.  Whenever the keys
before it have completed a sequence, the store called for more. -/
structure Fires (c : Config) (store : Store α) (b : Builder) (keys : List Key) (s : KeySequence)
    (command : α) : Prop where
  ne_nil : keys ≠ []
  built : b.feedAll c keys = { sequence := s }
  command : store s.description = .command command
  nested : ∀ before, before ≠ [] → before <+: keys → before ≠ keys →
    (b.feedAll c before).pending = none →
    store (b.feedAll c before).sequence.description = .nested

variable {c : Config} {store : Store α} {b : Builder} {key : Key} {keys : List Key}
  {s : KeySequence} {command : α}

theorem fires_cons_iff :
    Fires c store b (key :: keys) s command ↔
      (keys = [] ∧ (b.feed c key).builder = { sequence := s } ∧
        store s.description = .command command) ∨
      (((b.feed c key).builder.pending = none →
          store (b.feed c key).builder.sequence.description = .nested) ∧
        Fires c store (b.feed c key).builder keys s command) := by
  constructor
  · rintro ⟨-, hBuilt, hCommand, hNested⟩
    by_cases hKeys : keys = []
    · subst hKeys
      exact Or.inl ⟨rfl, hBuilt, hCommand⟩
    · refine Or.inr ⟨fun hIdle => ?_, hKeys, hBuilt, hCommand, fun before hNe hPrefix hShort => ?_⟩
      · refine hNested [key] (List.cons_ne_nil _ _) ⟨keys, rfl⟩ ?_ hIdle
        rintro ⟨⟩
        exact hKeys rfl
      · refine hNested (key :: before) (List.cons_ne_nil _ _)
          (List.cons_prefix_cons.mpr ⟨rfl, hPrefix⟩) ?_
        rintro ⟨⟩
        exact hShort rfl
  · rintro (⟨rfl, hBuilt, hCommand⟩ | ⟨hFirst, hNe, hBuilt, hCommand, hNested⟩)
    · refine ⟨List.cons_ne_nil _ _, hBuilt, hCommand, fun before hNe hPrefix hShort => ?_⟩
      rcases List.prefix_cons_iff.mp hPrefix with rfl | ⟨rest, rfl, hRest⟩
      · exact absurd rfl hNe
      · rw [List.prefix_nil.mp hRest] at hShort
        exact absurd rfl hShort
    · refine ⟨List.cons_ne_nil _ _, hBuilt, hCommand, fun before hNe' hPrefix hShort => ?_⟩
      rcases List.prefix_cons_iff.mp hPrefix with rfl | ⟨rest, rfl, hRest⟩
      · exact absurd rfl hNe'
      · by_cases hNil : rest = []
        · subst hNil
          exact hFirst
        · exact hNested rest hNil hRest fun he => hShort (he ▸ rfl)

end Builder

/-! ## Lookups that fire a command -/

namespace Episode

variable {e : Episode} {store : Store α} {script rest : Script} {struck : List Key}
  {s : KeySequence} {command : α}

theorem taken_building (c : Config) (b : Builder) (keys : Nat) :
    taken ⟨c, .building b keys⟩ = keys := rfl

/-- What a key makes of the rest of an episode: if it has completed a sequence, the store decides
whether the episode ends. -/
theorem finish_key (e : Episode) (store : Store α) (key : Key) (script : Script) :
    (e.finish store (.key key :: script)).seen =
      let b := (e.builder.feed e.config key).builder
      match b.pending, store b.sequence.description with
      | none, .command c => (.ok ⟨b.sequence.description, c, e.taken + 1⟩, script)
      | none, .unbound => (.error (.unresolved b.sequence.description), script)
      | _, _ => (finish ⟨e.config, .building b (e.taken + 1)⟩ store script).seen := by
  have hFeed := e.feed_eq store key
  dsimp only at hFeed ⊢
  cases hPending : (e.builder.feed e.config key).builder.pending with
  | some m =>
    simp only [hPending] at hFeed ⊢
    rw [finish_of_pending (Prod.mk.inj hFeed).1, (Prod.mk.inj hFeed).2]
  | none =>
    cases hStore : store (e.builder.feed e.config key).builder.sequence.description with
    | command c =>
      simp only [hPending, hStore] at hFeed ⊢
      rw [finish_of_command (Prod.mk.inj hFeed).1, (Prod.mk.inj hFeed).2]
      rfl
    | unbound =>
      simp only [hPending, hStore] at hFeed ⊢
      exact finish_of_undefined (Prod.mk.inj hFeed).1
    | nested =>
      simp only [hPending, hStore] at hFeed ⊢
      rw [finish_of_pending (Prod.mk.inj hFeed).1, (Prod.mk.inj hFeed).2]

/-- The keys that an episode takes for a command fire it, and the script is left right behind
them. -/
theorem exists_fires_of_finish {r : Resolved α}
    (h : (e.finish store script).seen = (.ok r, rest)) :
    ∃ struck s, struck <+: script.heard ∧ rest = script.dropKeys struck.length ∧
      r.sequence = s.description ∧ r.keysConsumed = e.taken + struck.length ∧
      Builder.Fires e.config store e.builder struck s r.command := by
  induction script generalizing e with
  | nil => cases h
  | cons item script ih =>
    cases item with
    | failure cause => cases h
    | ignored event =>
      obtain ⟨struck, s, hPrefix, rfl, hText, hKeys, hFires⟩ := ih h
      refine ⟨struck, s, hPrefix, ?_, hText, hKeys, hFires⟩
      rw [Script.dropKeys_ignored hFires.ne_nil]
    | key key =>
      rw [finish_key] at h
      dsimp only at h
      split at h
      · next c hIdle hStore =>
        obtain ⟨rfl, rfl⟩ := h
        exact ⟨[key], _, List.prefix_append [key] _, (Script.dropKeys_zero rest).symm, rfl, rfl,
          Builder.fires_cons_iff.mpr (Or.inl ⟨rfl, Builder.eq_of_pending_none hIdle, hStore⟩)⟩
      · cases h
      · next hCommand hUnbound =>
        obtain ⟨struck, s, hPrefix, hRest, hText, hKeys, hFires⟩ := ih h
        refine ⟨key :: struck, s, List.cons_prefix_cons.mpr ⟨rfl, hPrefix⟩, hRest, hText, ?_,
          Builder.fires_cons_iff.mpr (Or.inr ⟨fun hIdle => ?_, hFires⟩)⟩
        · rw [hKeys, taken_building, List.length_cons]
          omega
        · cases hStore : store (e.builder.feed e.config key).builder.sequence.description with
          | command c => exact (hCommand c hIdle hStore).elim
          | unbound => exact (hUnbound hIdle hStore).elim
          | nested => rfl

/-- Keys that fire a command, at the head of what an episode hears, bring it to that command. -/
theorem finish_of_fires (hFires : Builder.Fires e.config store e.builder struck s command)
    (hHeard : struck <+: script.heard) :
    (e.finish store script).seen =
      (.ok ⟨s.description, command, e.taken + struck.length⟩, script.dropKeys struck.length) := by
  induction script generalizing e struck with
  | nil => exact absurd (List.prefix_nil.mp hHeard) hFires.ne_nil
  | cons item script ih =>
    cases item with
    | failure cause => exact absurd (List.prefix_nil.mp hHeard) hFires.ne_nil
    | ignored event =>
      rw [Script.dropKeys_ignored hFires.ne_nil]
      exact ih hFires hHeard
    | key key =>
      rcases List.prefix_cons_iff.mp hHeard with rfl | ⟨struck, rfl, hPrefix⟩
      · exact absurd rfl hFires.ne_nil
      rw [finish_key]
      rcases Builder.fires_cons_iff.mp hFires with ⟨rfl, hBuilt, hStore⟩ | ⟨hNested, hFires⟩
      · simp only [hBuilt, hStore]
        exact congrArg _ (Script.dropKeys_zero script).symm
      · dsimp only
        split
        · next c hIdle hStore =>
          rw [hNested hIdle] at hStore
          cases hStore
        · next hIdle hStore =>
          rw [hNested hIdle] at hStore
          cases hStore
        · rw [ih hFires hPrefix, taken_building, List.length_cons, Nat.add_right_comm,
            Nat.add_assoc]
          rfl

end Episode

/-! ## Keymaps -/

namespace Keymap.History

variable {h : History α} {c : Config} {s t : KeySequence} {keys : List Key} {command : α}

theorem Sound.resolve_eq_command_iff (hSound : h.Sound) (hs : s.Writable) :
    h.keymap.resolve s.description = .command command ↔ h.bound s = some command := by
  rw [hSound.resolve_eq_answer, answer, hs.parse_description]
  dsimp only
  cases h.bound s with
  | some c => rw [Binding.command.injEq, Option.some.injEq]
  | none =>
    dsimp only
    split <;> exact iff_of_false (by rintro ⟨⟩) (by rintro ⟨⟩)

theorem Sound.resolve_of_properPrefix (hSound : h.Sound) (ht : t ∈ h.domain) (hNil : s.chords ≠ [])
    (hPrefix : s.ProperPrefix t) : h.keymap.resolve s.description = .nested := by
  have hs := hPrefix.writable hNil (hSound.writable t ht)
  have hFree : h.bound s = none := by
    rw [Option.eq_none_iff_forall_ne_some]
    intro c hBound
    exact hSound.prefixFree s (mem_domain.mpr ⟨c, hBound⟩) t ht hPrefix
  rw [hSound.resolve_eq_answer, answer, hs.parse_description]
  simp only [hFree]
  exact if_pos ⟨t, ht, hPrefix⟩

/-- Keys that build a bound sequence fire its command: until the last of them, more are called
for. -/
theorem Sound.fires_of_feedAll (hSound : h.Sound) (hBound : h.bound s = some command)
    (hBuilt : Builder.feedAll {} c keys = { sequence := s }) :
    Builder.Fires c h.keymap.resolve {} keys s command := by
  have hMem := mem_domain.mpr ⟨command, hBound⟩
  have hs := hSound.writable s hMem
  have hKeys := (Builder.spells_of_feedAll hBuilt).2
  refine ⟨?_, hBuilt, (hSound.resolve_eq_command_iff hs).mpr hBound, ?_⟩
  · rintro rfl
    exact hs.ne_nil (congrArg (fun b => b.sequence.chords) hBuilt).symm
  · intro before hNe hPrefix hShort hIdle
    obtain ⟨after, rfl⟩ := hPrefix
    obtain ⟨-, hBefore⟩ := Builder.spells_of_feedAll (Builder.eq_of_pending_none hIdle)
    refine hSound.resolve_of_properPrefix hMem (fun hNil => ?_) ⟨?_, ?_⟩
    · rw [Config.spelling_of_nil hNil] at hBefore
      exact hNe (List.map_eq_nil_iff.mp hBefore)
    · have hGrows := (Builder.feedAll {} c before).prefix_sequence_feedAll c after
      rwa [← Builder.feedAll_append, hBuilt] at hGrows
    · -- A sequence is not spelled by fewer keys than there are in its spelling.
      intro hSame
      rw [hSame, ← hKeys, List.map_append] at hBefore
      have hAfter := List.map_eq_nil_iff.mp (List.append_right_eq_self.mp hBefore.symm)
      rw [hAfter, List.append_nil] at hShort
      exact hShort rfl

theorem Sound.fires_of_spelling (hSound : h.Sound) (hNodup : c.triggerTokens.Nodup)
    (hBound : h.bound s = some command) (hs : c.Strikable s)
    (hKeys : keys.map Key.token = c.spelling s) :
    Builder.Fires c h.keymap.resolve {} keys s command :=
  hSound.fires_of_feedAll hBound (Builder.feedAll_spelling hNodup hs hKeys)

theorem eq_of_fires {store : Store α} (hFires : Builder.Fires c store {} keys t command)
    (hKeys : ∀ key ∈ keys, Writable key.token) (hs : s.Writable)
    (hText : s.description = t.description) : s = t := by
  exact hs.eq_of_description (Builder.writable_of_feedAll hFires.built hFires.ne_nil hKeys) hText

/-- Keys with writable tokens that a lookup takes for a writable sequence spell that sequence. -/
theorem spells_of_lookup {i : Interpreter} {store : Store α} {n : Nat} (hs : s.Writable)
    (hKeys : ∀ key ∈ keys, Writable key.token)
    (hLookup : (i.lookup store (keys.map Item.key)).result = .ok ⟨s.description, command, n⟩) :
    i.config.Strikable s ∧ (keys.take n).map Key.token = i.config.spelling s ∧ n = s.cost ∧
    (i.lookup store (keys.map Item.key)).rest = (keys.drop n).map Item.key := by
  have hSeen : (i.lookup store (keys.map Item.key)).seen =
      (.ok ⟨s.description, command, n⟩, (i.lookup store (keys.map Item.key)).rest) :=
    Prod.ext hLookup rfl
  obtain ⟨struck, t, hHeard, hRest, hText, hCount, hFires⟩ := Episode.exists_fires_of_finish hSeen
  obtain rfl : n = struck.length := hCount.trans (Nat.zero_add _)
  rw [Script.heard_map_key] at hHeard
  rw [Script.dropKeys_map_key] at hRest
  have hTake : keys.take struck.length = struck := (List.prefix_iff_eq_take.mp hHeard).symm
  have hStruck : ∀ key ∈ struck, Writable key.token := fun key hKey =>
    hKeys key (hHeard.subset hKey)
  obtain rfl := eq_of_fires hFires hStruck hs hText
  obtain ⟨hStrikable, hSpelling⟩ := Builder.spells_of_feedAll hFires.built
  have hCost : struck.length = s.cost := by
    rw [← i.config.length_spelling s, ← hSpelling, List.length_map]
  exact ⟨hStrikable, hTake.symm ▸ hSpelling, hCost, hRest⟩

/-- A sequence that is bound in a keymap is fired by some keys with writable tokens exactly if it
can be struck and no token of it is the name of the backspace key.  The keys that fire it spell it,
so there is no choice of tokens, and there are as many of them as the chords cost together. -/
theorem exists_keys_fire_iff (i : Interpreter) (calls : List (String × α)) (s : KeySequence)
    (command : α) (hValid : i.config.validate = .ok ())
    (hTriggers : ∀ token ∈ i.config.triggerTokens, Writable token)
    (hBound : (run calls).bound s = some command) :
    let lookup (keys : List Key) := i.lookup (run calls).keymap.resolve (keys.map Item.key)
    ((∃ keys n, (∀ key ∈ keys, Writable key.token) ∧
        (lookup keys).result = .ok ⟨s.description, command, n⟩) ↔
      i.config.Strikable s ∧ ∀ chord ∈ s.chords, chord.token ≠ "backspace") ∧
    ∀ keys n, (∀ key ∈ keys, Writable key.token) →
      (lookup keys).result = .ok ⟨s.description, command, n⟩ →
      (keys.take n).map Key.token = i.config.spelling s ∧ n = s.cost ∧
      (lookup keys).rest = (keys.drop n).map Item.key := by
  have hSound := sound_run calls
  have hNodup := (Config.validate_eq_ok_iff.mp hValid).2
  have hWritable := hSound.writable s (mem_domain.mpr ⟨command, hBound⟩)
  dsimp only
  refine ⟨⟨?_, ?_⟩, fun keys n hKeys hLookup => ?_⟩
  · rintro ⟨keys, n, hKeys, hLookup⟩
    obtain ⟨hStrikable, hSpelling, -⟩ := spells_of_lookup hWritable hKeys hLookup
    refine ⟨hStrikable, fun chord hChord => Key.exists_token_eq_iff.mp ?_⟩
    have hToken := i.config.token_mem_spelling hChord
    rw [← hSpelling] at hToken
    obtain ⟨key, -, hKey⟩ := List.mem_map.mp hToken
    exact ⟨key, hKey⟩
  · rintro ⟨hStrikable, hTokens⟩
    obtain ⟨keys, hSpelling⟩ := i.config.exists_map_token_eq_spelling
      fun chord hChord => Key.exists_token_eq_iff.mpr (hTokens chord hChord)
    have hFires := hSound.fires_of_spelling hNodup hBound hStrikable hSpelling
    have hHeard : keys <+: Script.heard (keys.map Item.key) := by
      rw [Script.heard_map_key]
    refine ⟨keys, 0 + keys.length, fun key hKey => ?_, ?_⟩
    · have hToken : key.token ∈ i.config.spelling s := hSpelling ▸ List.mem_map_of_mem hKey
      rcases Config.mem_spelling hToken with hTrigger | ⟨chord, hChord, hEq⟩
      · exact hTriggers key.token hTrigger
      · exact hEq ▸ hWritable.token chord hChord
    · exact (Prod.mk.inj (Episode.finish_of_fires (e := { config := i.config }) hFires hHeard)).1
  · exact (spells_of_lookup hWritable hKeys hLookup).2

/-- A plain chord that is not the first costs a key more, which keeps Control away from it. -/
theorem exists_keys_fire_jump :
    let s : KeySequence := ⟨[⟨.metaKey, "g"⟩, ⟨.plain, "x"⟩]⟩
    let calls := [("M-g C-x", "cut"), ("M-g x", "jump")]
    let lookup (keys : List Key) := Interpreter.lookup {} (run calls).keymap.resolve
      (keys.map Item.key)
    ({} : Config).validate = .ok () ∧ (∀ token ∈ ({} : Config).triggerTokens, Writable token) ∧
    (run calls).bound s = some "jump" ∧
    (∃ keys n, (∀ key ∈ keys, Writable key.token) ∧
      (lookup keys).result = .ok ⟨s.description, "jump", n⟩) ∧
    ∀ keys n, (∀ key ∈ keys, Writable key.token) →
      (lookup keys).result = .ok ⟨s.description, "jump", n⟩ →
      (keys.take n).map Key.token = ["g", "g", "SPC", "x"] ∧ n = 4 := by
  have hValid : ({} : Config).validate = .ok () := rfl
  have hTriggers : ∀ token ∈ ({} : Config).triggerTokens, Writable token := by decide
  have hBound : (run [("M-g C-x", "cut"), ("M-g x", "jump")]).bound
      ⟨[⟨.metaKey, "g"⟩, ⟨.plain, "x"⟩]⟩ = some "jump" := by decide +kernel
  obtain ⟨hFired, hSpelled⟩ := exists_keys_fire_iff {} _ _ _ hValid hTriggers hBound
  refine ⟨hValid, hTriggers, hBound, hFired.mpr ⟨by decide, by decide⟩, ?_⟩
  intro keys n hKeys hLookup
  obtain ⟨hTokens, hCost, -⟩ := hSpelled keys n hKeys hLookup
  exact ⟨hTokens, hCost⟩

end Keymap.History

end Keychord
