import Mathlib.Data.List.Induction
import Keychord.Proofs.Config.Spelling
import Keychord.Proofs.Sequence.RoundTrip

/-!
# Runs of a builder

`Spelled` says that a builder has read a row of tokens; every key keeps it (`Spelled.feed`), so it
holds after every run.  What a builder has read is therefore the spelling of what it has built, and
under a valid configuration the spelling of a sequence builds that sequence (`feedAll_eq_iff`).
-/

namespace Keychord

namespace Builder

variable {c : Config} {b : Builder} {s : KeySequence} {chord : Chord} {m : Modifier} {key : Key}
  {keys : List Key}

/-! ## One key -/

theorem feed_of_pending (h : b.pending = some m) :
    (b.feed c key).builder = { sequence := b.sequence.push ⟨m, key.token⟩ } := by
  simp only [feed, h, append]

theorem feed_of_first (hIdle : b.pending = none) (hFirst : b.sequence.isEmpty = true)
    (hToken : key.token = c.escapeToken) :
    (b.feed c key).builder = { sequence := b.sequence.push ⟨.plain, key.token⟩ } := by
  simp [feed, hIdle, append, Config.reading_eq, hFirst, hToken]

theorem feed_of_control (hIdle : b.pending = none) (hToken : key.token ∉ c.triggerTokens) :
    (b.feed c key).builder = { sequence := b.sequence.push ⟨.control, key.token⟩ } := by
  have hTrigger := Config.trigger?_eq_none_iff.mpr hToken
  have hEscape : key.token ≠ c.escapeToken := fun he => hToken (he ▸ List.mem_cons_self)
  simp [feed, hIdle, append, Config.reading_eq, hTrigger, hEscape]

theorem feed_of_trigger (hIdle : b.pending = none) (hTrigger : c.trigger? key.token = some m)
    (hLater : ¬ (b.sequence.isEmpty = true ∧ key.token = c.escapeToken)) :
    (b.feed c key).builder = { b with pending := some m } := by
  simp only [feed, hIdle, Config.reading_eq, if_neg hLater, hTrigger]

theorem chords_ne_nil_of_feed (h : (b.feed c key).builder = { sequence := s }) : s.chords ≠ [] := by
  rcases b.feed_cases c key with ⟨m, -, hBuilder⟩ | ⟨-, m, -, hBuilder⟩
  · obtain rfl := (Builder.mk.inj (h.symm.trans hBuilder)).1
    exact List.append_ne_nil_of_right_ne_nil _ (List.cons_ne_nil _ [])
  · cases (Builder.mk.inj (h.symm.trans hBuilder)).2

theorem eq_of_pending_none (h : b.pending = none) : b = { sequence := b.sequence } := by
  obtain ⟨s, pending⟩ := b
  obtain rfl : pending = none := h
  rfl

/-! ## Runs of keys -/

/-- A builder after some keys. -/
def feedAll (b : Builder) (c : Config) (keys : List Key) : Builder :=
  keys.foldl (fun b key => (b.feed c key).builder) b

@[simp] theorem feedAll_nil (b : Builder) (c : Config) : b.feedAll c [] = b := rfl

@[simp] theorem feedAll_cons (b : Builder) (c : Config) (key : Key) (keys : List Key) :
    b.feedAll c (key :: keys) = (b.feed c key).builder.feedAll c keys := rfl

@[simp] theorem feedAll_append (b : Builder) (c : Config) (keys keys' : List Key) :
    b.feedAll c (keys ++ keys') = (b.feedAll c keys).feedAll c keys' := List.foldl_append

/-- A builder has read a row of tokens: they spell what it has built, and a trigger may be left over
that has handed on its modifier. -/
structure Spelled (c : Config) (b : Builder) (tokens : List String) : Prop where
  tokens : tokens = c.spelling b.sequence ++ (b.pending.bind c.triggerToken?).toList
  strikable : c.Strikable b.sequence
  pending : ∀ m ∈ b.pending, m ≠ .control ∧ ¬ (b.sequence.isEmpty = true ∧ m = .plain)

theorem Spelled.empty (c : Config) : Spelled c {} [] := ⟨rfl, c.strikable_empty, by rintro m ⟨⟩⟩

/-- A chord is appended to what has been built when its last stroke is read. -/
theorem Spelled.push {tokens : List String} (h : Spelled c { sequence := s } tokens)
    (hChord : c.Strikes s.isEmpty chord) :
    Spelled c { sequence := s.push chord } (tokens ++ c.strokes s.isEmpty chord) where
  tokens := by
    rw [h.tokens, c.spelling_push]
    simp
  strikable := Config.strikable_push.mpr ⟨h.strikable, hChord⟩
  pending := by rintro m ⟨⟩

theorem Spelled.feed {tokens : List String} (h : Spelled c b tokens) (key : Key) :
    Spelled c (b.feed c key).builder (tokens ++ [key.token]) := by
  obtain ⟨s, pending⟩ := b
  cases pending with
  | some m =>
    obtain ⟨hControl, hPlain⟩ := h.pending m rfl
    have hBefore : Spelled c { sequence := s } (c.spelling s) :=
      ⟨by simp, h.strikable, by rintro m ⟨⟩⟩
    have hStrokes : c.strokes s.isEmpty ⟨m, key.token⟩ =
        (c.triggerToken? m).toList ++ [key.token] := if_neg hPlain
    have hTokens : tokens ++ [key.token] =
        c.spelling s ++ c.strokes s.isEmpty ⟨m, key.token⟩ := by
      rw [h.tokens, hStrokes, List.append_assoc]
      rfl
    rw [feed_of_pending rfl, hTokens]
    exact hBefore.push ⟨fun hEmpty hm => absurd ⟨hEmpty, hm⟩ hPlain, fun hm => absurd hm hControl⟩
  | none =>
    by_cases hFirst : s.isEmpty = true ∧ key.token = c.escapeToken
    · have hStrokes : c.strokes s.isEmpty ⟨.plain, key.token⟩ = [key.token] :=
        if_pos ⟨hFirst.1, rfl⟩
      rw [feed_of_first rfl hFirst.1 hFirst.2, ← hStrokes]
      exact h.push ⟨fun _ _ => hFirst.2, by rintro ⟨⟩⟩
    · cases hTrigger : c.trigger? key.token with
      | none =>
        have hToken := Config.trigger?_eq_none_iff.mp hTrigger
        have hStrokes : c.strokes s.isEmpty ⟨.control, key.token⟩ = [key.token] :=
          if_neg (by rintro ⟨-, ⟨⟩⟩)
        rw [feed_of_control rfl hToken, ← hStrokes]
        exact h.push ⟨by rintro - ⟨⟩, fun _ => hToken⟩
      | some m =>
        have hm := Config.triggerToken?_of_trigger? hTrigger
        rw [feed_of_trigger rfl hTrigger hFirst]
        refine ⟨?_, h.strikable, ?_⟩
        · rw [h.tokens]
          simp [hm]
        · rintro _ ⟨⟩
          refine ⟨?_, ?_⟩
          · rintro rfl
            cases hm
          · rintro ⟨hEmpty, rfl⟩
            exact hFirst ⟨hEmpty, (Option.some.inj hm).symm⟩

theorem spelled_feedAll (c : Config) (keys : List Key) :
    Spelled c (feedAll {} c keys) (keys.map Key.token) := by
  induction keys using List.reverseRecOn with
  | nil => exact Spelled.empty c
  | append_singleton keys key ih =>
    rw [feedAll_append, List.map_append]
    exact ih.feed key

/-- A run that leaves nothing pending has built a sequence that can be struck, from its spelling. -/
theorem spells_of_feedAll (h : feedAll {} c keys = { sequence := s }) :
    c.Strikable s ∧ keys.map Key.token = c.spelling s := by
  have hSpelled := spelled_feedAll c keys
  rw [h] at hSpelled
  exact ⟨hSpelled.strikable, hSpelled.tokens.trans (List.append_nil _)⟩

theorem exists_token_eq_of_mem (h : chord ∈ (feedAll {} c keys).sequence.chords) :
    ∃ key ∈ keys, key.token = chord.token := by
  have hToken := c.token_mem_spelling h
  rw [← List.mem_map, (spelled_feedAll c keys).tokens]
  exact List.mem_append_left _ hToken

theorem chords_ne_nil_of_feedAll (h : feedAll {} c keys = { sequence := s }) (hNe : keys ≠ []) :
    s.chords ≠ [] := by
  intro hNil
  have hSpelling := (spells_of_feedAll h).2
  rw [Config.spelling_of_nil hNil] at hSpelling
  exact hNe (List.map_eq_nil_iff.mp hSpelling)

theorem writable_of_feedAll (h : feedAll {} c keys = { sequence := s }) (hNe : keys ≠ [])
    (hKeys : ∀ key ∈ keys, Writable key.token) : s.Writable := by
  refine ⟨chords_ne_nil_of_feedAll h hNe, fun chord hChord => ?_⟩
  have hMem : chord ∈ (feedAll {} c keys).sequence.chords := h ▸ hChord
  obtain ⟨key, hKey, hToken⟩ := exists_token_eq_of_mem hMem
  exact hToken ▸ hKeys key hKey

theorem prefix_sequence_feed (b : Builder) (c : Config) (key : Key) :
    b.sequence.chords <+: (b.feed c key).builder.sequence.chords := by
  rcases b.feed_cases c key with ⟨m, -, hBuilder⟩ | ⟨-, m, -, hBuilder⟩
  · rw [hBuilder]
    exact List.prefix_append b.sequence.chords [⟨m, key.token⟩]
  · exact hBuilder ▸ List.prefix_rfl

theorem prefix_sequence_feedAll (b : Builder) (c : Config) (keys : List Key) :
    b.sequence.chords <+: (b.feedAll c keys).sequence.chords := by
  induction keys generalizing b with
  | nil => exact List.prefix_rfl
  | cons key keys ih => exact (b.prefix_sequence_feed c key).trans (ih _)

/-- The chords that keys add are those of the groups that their tokens are cut into. -/
theorem chords_feedAll (b : Builder) (c : Config) (keys : List Key) :
    (b.feedAll c keys).sequence.chords =
      b.sequence.chords ++ (b.groups c (keys.map Key.token)).map Group.chord := by
  induction keys generalizing b with
  | nil => simp
  | cons key keys ih =>
    have hGroups := b.groups_cons c key (keys.map Key.token)
    rw [feedAll_cons, ih, List.map_cons]
    cases hStep : (b.feed c key).step with
    | needsKey =>
      rw [hStep] at hGroups
      obtain ⟨m, hBuilder, hGroups⟩ := hGroups
      rw [hGroups, hBuilder]
      cases groups ⟨b.sequence, some m⟩ c (keys.map Key.token) <;> rfl
    | appended chord =>
      rw [hStep] at hGroups
      obtain ⟨hBuilder, hGroups⟩ := hGroups
      rw [hGroups, hBuilder, List.map_cons]
      simp [KeySequence.push]

theorem groups_empty (c : Config) (tokens : List String) :
    ({} : Builder).groups c tokens = c.groups true tokens := rfl

/-- The groups take all keys but a trigger that is left over at the end.  A trigger that was pending
before belongs to no group, and is left over if no key comes. -/
theorem sum_keys_groups (b : Builder) (c : Config) (keys : List Key) :
    ((b.groups c (keys.map Key.token)).map Group.keys).sum +
        (b.feedAll c keys).pending.toList.length =
      keys.length + if keys = [] then b.pending.toList.length else 0 := by
  induction keys generalizing b with
  | nil => simp
  | cons key keys ih =>
    have hGroups := b.groups_cons c key (keys.map Key.token)
    have hRest := ih (b.feed c key).builder
    rw [List.map_cons, feedAll_cons, if_neg (List.cons_ne_nil key keys), List.length_cons]
    cases hStep : (b.feed c key).step with
    | needsKey =>
      rw [hStep] at hGroups
      obtain ⟨m, hBuilder, hGroups⟩ := hGroups
      rw [hGroups]
      rw [hBuilder] at hRest ⊢
      cases keys with
      | nil => rfl
      | cons next keys =>
        simp only [groups, Group.keys, List.map_cons, List.modifyHead_cons, List.sum_cons,
          List.length_cons, reduceCtorEq, if_true, if_false] at hRest ⊢
        omega
    | appended chord =>
      rw [hStep] at hGroups
      obtain ⟨hBuilder, hGroups⟩ := hGroups
      rw [hGroups]
      rw [hBuilder] at hRest ⊢
      simp only [Option.toList_none, List.length_nil, ite_self] at hRest
      rw [List.map_cons, List.sum_cons, Group.keys, if_neg Bool.false_ne_true]
      omega

/-! ## Striking a sequence -/

theorem feedAll_strokes (hNodup : c.triggerTokens.Nodup) (hChord : c.Strikes s.isEmpty chord)
    (hKeys : keys.map Key.token = c.strokes s.isEmpty chord) :
    feedAll { sequence := s } c keys = { sequence := s.push chord } := by
  obtain ⟨m, token⟩ := chord
  unfold Config.strokes at hKeys
  split at hKeys
  · next hFirst =>
    obtain ⟨key, rfl, rfl⟩ := List.map_eq_singleton_iff.mp hKeys
    obtain ⟨hEmpty, rfl⟩ := hFirst
    exact feed_of_first rfl hEmpty (hChord.plain hEmpty rfl)
  · next hFirst =>
    cases hm : c.triggerToken? m with
    | none =>
      obtain rfl := Config.triggerToken?_eq_none_iff.mp hm
      rw [hm] at hKeys
      obtain ⟨key, rfl, rfl⟩ := List.map_eq_singleton_iff.mp hKeys
      exact feed_of_control rfl (hChord.control rfl)
    | some trigger =>
      rw [hm] at hKeys
      obtain ⟨first, rest, rfl, rfl, hRest⟩ := List.map_eq_cons_iff.mp hKeys
      obtain ⟨last, rfl, rfl⟩ := List.map_eq_singleton_iff.mp hRest
      have hTrigger := (Config.trigger?_eq_some_iff hNodup).mpr hm
      have hLater : ¬ (s.isEmpty = true ∧ first.token = c.escapeToken) := by
        rintro ⟨hEmpty, hEscape⟩
        have hPlain : c.trigger? first.token = some .plain :=
          (Config.trigger?_eq_some_iff hNodup).mpr (congrArg some hEscape.symm)
        rw [hTrigger] at hPlain
        exact hFirst ⟨hEmpty, Option.some.inj hPlain⟩
      rw [feedAll_cons, feed_of_trigger rfl hTrigger hLater]
      exact feed_of_pending rfl

theorem feedAll_spelling (hNodup : c.triggerTokens.Nodup) (hs : c.Strikable s)
    (hKeys : keys.map Key.token = c.spelling s) : feedAll {} c keys = { sequence := s } := by
  obtain ⟨chords⟩ := s
  induction chords using List.reverseRecOn generalizing keys with
  | nil =>
    obtain rfl := List.map_eq_nil_iff.mp hKeys
    rfl
  | append_singleton chords chord ih =>
    obtain ⟨hBefore, hChord⟩ := Config.strikable_push.mp hs
    have hSpelling := c.spelling_push ⟨chords⟩ chord
    obtain ⟨before, last, rfl, hBeforeKeys, hLastKeys⟩ :=
      List.map_eq_append_iff.mp (hKeys.trans hSpelling)
    rw [feedAll_append, ih hBefore hBeforeKeys]
    exact feedAll_strokes hNodup hChord hLastKeys

/-- A run of keys builds a sequence, with nothing pending, exactly if the sequence can be struck and
the keys spell it. -/
theorem feedAll_eq_iff (hNodup : c.triggerTokens.Nodup) :
    feedAll {} c keys = { sequence := s } ↔
      c.Strikable s ∧ keys.map Key.token = c.spelling s := by
  constructor
  · exact spells_of_feedAll
  · rintro ⟨hs, hKeys⟩
    exact feedAll_spelling hNodup hs hKeys

/-- Under a valid configuration, a sequence of tokens of keys is built by some run of keys, with
nothing pending, exactly if it can be struck; only the name of the backspace key is no such token.
Two runs that leave nothing pending build the same sequence exactly if they have the same tokens,
one by one. -/
theorem exists_feedAll_eq_iff (hValid : c.validate = .ok ()) :
    (∀ s : KeySequence, (∀ chord ∈ s.chords, ∃ key : Key, key.token = chord.token) →
      ((∃ keys, feedAll {} c keys = { sequence := s }) ↔ c.Strikable s)) ∧
    (∀ token, (∃ key : Key, key.token = token) ↔ token ≠ "backspace") ∧
    ∀ keys keys', (feedAll {} c keys).pending = none → (feedAll {} c keys').pending = none →
      ((feedAll {} c keys).sequence = (feedAll {} c keys').sequence ↔
        keys.map Key.token = keys'.map Key.token) := by
  have hNodup := (Config.validate_eq_ok_iff.mp hValid).2
  refine ⟨fun s hTokens => ?_, fun token => Key.exists_token_eq_iff, fun keys keys' h h' => ?_⟩
  · constructor
    · rintro ⟨keys, hRun⟩
      exact ((feedAll_eq_iff hNodup).mp hRun).1
    · intro hs
      obtain ⟨keys, hKeys⟩ := c.exists_map_token_eq_spelling hTokens
      exact ⟨keys, (feedAll_eq_iff hNodup).mpr ⟨hs, hKeys⟩⟩
  · obtain ⟨hs, hKeys⟩ := (feedAll_eq_iff hNodup).mp (eq_of_pending_none h)
    obtain ⟨-, hKeys'⟩ := (feedAll_eq_iff hNodup).mp (eq_of_pending_none h')
    constructor
    · intro hSequence
      rw [hKeys, hKeys', hSequence]
    · intro hSame
      have hRun := (feedAll_eq_iff hNodup).mpr ⟨hs, hSame.symm.trans hKeys⟩
      rw [hRun]

/-- The default triggers take each other and themselves for tokens, but a plain first chord can only
be the escape trigger; and keys count by their tokens alone. -/
theorem exists_feedAll_default :
    ({} : Config).validate = .ok () ∧
    (∃ keys, feedAll {} {} keys =
      { sequence := ⟨[⟨.metaKey, "g"⟩, ⟨.plain, "G"⟩, ⟨.control, "x"⟩]⟩ }) ∧
    (¬ ∃ keys, feedAll {} {} keys = { sequence := ⟨[⟨.plain, "x"⟩]⟩ }) ∧
    (feedAll {} {} [.char ' ', .char 'x']).sequence =
      (feedAll {} {} [.named "SPC", .named "x"]).sequence := by
  have hValid : ({} : Config).validate = .ok () := rfl
  obtain ⟨hImage, hToken, hSame⟩ := exists_feedAll_eq_iff hValid
  refine ⟨hValid, (hImage _ ?_).mpr (by decide), ?_,
    (hSame _ _ (by decide) (by decide)).mpr (by decide)⟩
  · simp only [hToken]
    decide
  · rw [hImage _ (by simp only [hToken]; decide)]
    decide

end Builder

end Keychord
