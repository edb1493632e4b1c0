import Keychord.Episode

/-!
# Tokens cut into groups

`Config.groups` cuts a row of tokens from left to right, a trigger together with the token that it
hands its modifier to.  A builder reads keys one at a time instead and remembers the trigger; what
it does with one key is what the cut does with one token (`Builder.groups_cons`).  The second half
says what an episode does with a key in terms of its builder.
-/

namespace Keychord

/-- A chord, and whether a trigger was struck before its token. -/
structure Group where
  chord : Chord
  triggered : Bool
  deriving DecidableEq

/-- The number of keys that a group is struck with. -/
def Group.keys (g : Group) : Nat := if g.triggered then 2 else 1

theorem Group.keys_pos (g : Group) : 0 < g.keys := by
  unfold keys
  split <;> omega

namespace Config

/-- The modifier that a token hands to the next one if it is a trigger. -/
def trigger? (c : Config) (token : String) : Option Modifier :=
  if token = c.escapeToken then some .plain
  else if token = c.metaToken then some .metaKey
  else if token = c.controlMetaToken then some .controlMeta
  else none

/-- The complete groups of a row of tokens.  The escape token is a group by itself if it is the very
first; every other trigger takes the token after it, whatever that is; every other token is taken
with Control. -/
def groups (c : Config) (isFirst : Bool) : List String → List Group
  | [] => []
  | token :: rest =>
    if isFirst = true ∧ token = c.escapeToken then ⟨⟨.plain, token⟩, false⟩ :: c.groups false rest
    else
      match c.trigger? token with
      | none => ⟨⟨.control, token⟩, false⟩ :: c.groups false rest
      | some m =>
        match rest with
        | [] => []
        | next :: rest => ⟨⟨m, next⟩, true⟩ :: c.groups false rest

theorem reading_eq (c : Config) (token : String) (isFirst : Bool) :
    c.reading token isFirst =
      if isFirst = true ∧ token = c.escapeToken then .apply .plain
      else
        match c.trigger? token with
        | none => .apply .control
        | some m => .lookahead m := by
  unfold reading trigger?
  by_cases hEscape : token = c.escapeToken
  · cases isFirst <;> simp [hEscape]
  · simp only [hEscape, and_false, if_false]
    split
    · rfl
    · split <;> rfl

end Config

namespace Builder

/-- The groups that a row of tokens completes after what a builder has read already.  A trigger
that it has read does not count among the keys of the first one. -/
def groups (b : Builder) (c : Config) (tokens : List String) : List Group :=
  match b.pending, tokens with
  | none, _ => c.groups b.sequence.isEmpty tokens
  | some m, token :: rest => ⟨⟨m, token⟩, false⟩ :: c.groups false rest
  | some _, [] => []

@[simp] theorem groups_nil (b : Builder) (c : Config) : b.groups c [] = [] := by
  unfold groups
  split
  · rfl
  · contradiction
  · rfl

/-- The group that a pending modifier goes into has its trigger behind it. -/
theorem triggered_of_mem_head? {s : KeySequence} {m : Modifier} {c : Config}
    {tokens : List String} :
    ∀ g ∈ (groups ⟨s, some m⟩ c tokens).head?, g.triggered = false := by
  intro g hg
  cases tokens with
  | nil => cases hg
  | cons token rest =>
    obtain rfl := Option.some.inj hg
    rfl

/-- A key either gives its token to a chord, or is a trigger behind which nothing was pending. -/
theorem feed_cases (b : Builder) (c : Config) (key : Key) :
    (∃ m, (b.feed c key).step = .appended ⟨m, key.token⟩ ∧
      (b.feed c key).builder = { sequence := b.sequence.push ⟨m, key.token⟩ }) ∨
    b.pending = none ∧ ∃ m, (b.feed c key).step = .needsKey ∧
      (b.feed c key).builder = { b with pending := some m } := by
  obtain ⟨s, pending⟩ := b
  cases pending with
  | some m => exact Or.inl ⟨m, rfl, rfl⟩
  | none =>
    simp only [feed]
    cases c.reading key.token s.isEmpty with
    | apply m => exact Or.inl ⟨m, rfl, rfl⟩
    | lookahead m => exact Or.inr ⟨trivial, m, rfl, rfl⟩

theorem isEmpty_push (s : KeySequence) (chord : Chord) : (s.push chord).isEmpty = false := by
  simp [KeySequence.isEmpty, KeySequence.push]

/-- A key makes of the builder what its token makes of the cut: a complete group comes off, or a
trigger is remembered for the group that comes next. -/
theorem groups_cons (b : Builder) (c : Config) (key : Key) (tokens : List String) :
    match (b.feed c key).step with
    | .appended chord =>
      (b.feed c key).builder = { sequence := b.sequence.push chord } ∧
      b.groups c (key.token :: tokens) =
        ⟨chord, false⟩ :: (b.feed c key).builder.groups c tokens
    | .needsKey => ∃ m,
      (b.feed c key).builder = { sequence := b.sequence, pending := some m } ∧
      b.groups c (key.token :: tokens) =
        ((b.feed c key).builder.groups c tokens).modifyHead
          fun g => { g with triggered := true } := by
  obtain ⟨s, pending⟩ := b
  cases pending with
  | some m => simp [feed, append, groups, isEmpty_push]
  | none =>
    by_cases hFirst : s.isEmpty = true ∧ key.token = c.escapeToken
    · simp [feed, append, groups, isEmpty_push, Config.reading_eq, Config.groups, hFirst]
    · cases hTrigger : c.trigger? key.token with
      | none =>
        simp [feed, append, groups, isEmpty_push, Config.reading_eq, Config.groups, hFirst,
          hTrigger]
      | some m =>
        have hFeed : (⟨s, none⟩ : Builder).feed c key =
            ⟨⟨s, some m⟩, .needsKey, [.lookahead key.token]⟩ := by
          simp [feed, Config.reading_eq, hFirst, hTrigger]
        rw [hFeed]
        refine ⟨m, rfl, ?_⟩
        cases tokens <;> simp [groups, Config.groups, hFirst, hTrigger]

example : ({} : Builder).groups {} ["SPC", "g", "G", "x", "SPC"] =
    [⟨⟨.plain, "SPC"⟩, false⟩, ⟨⟨.metaKey, "G"⟩, true⟩, ⟨⟨.control, "x"⟩, false⟩] := by
  decide

end Builder

namespace Episode

variable {α : Type}

/-- The number of keys taken by the episode that is going on. -/
def taken (e : Episode) : Nat := if e.isBuilding then e.keysConsumed else 0

theorem builder_of_idle {e : Episode} (h : e.isBuilding = false) : e.builder = {} := by
  unfold builder
  split
  · next b keys hPhase => simp [isBuilding, hPhase] at h
  · rfl

theorem taken_of_idle {e : Episode} (h : e.isBuilding = false) : e.taken = 0 := by
  simp [taken, h]

theorem feed_of_needsKey (store : Store α) {e : Episode} {key : Key}
    (h : (e.builder.feed e.config key).step = .needsKey) :
    (e.feed store key).step = .pending ∧
    (e.feed store key).episode =
      ⟨e.config, .building (e.builder.feed e.config key).builder (e.taken + 1)⟩ := by
  simp [feed, h, taken]

theorem feed_of_appended (store : Store α) {e : Episode} {key : Key} {chord : Chord}
    (h : (e.builder.feed e.config key).step = .appended chord) :
    let answer := dispatch e.config store (e.builder.feed e.config key).builder (e.taken + 1)
    (e.feed store key).step = answer.step ∧ (e.feed store key).episode = answer.episode := by
  simp [feed, h, taken]

/-- What a key does: if it has completed a sequence, the store decides whether the episode ends. -/
theorem feed_eq (e : Episode) (store : Store α) (key : Key) :
    let b := (e.builder.feed e.config key).builder
    ((e.feed store key).step, (e.feed store key).episode) =
      match b.pending, store b.sequence.description with
      | none, .command c =>
        (.command b.sequence.description c, ⟨e.config, .resolved (e.taken + 1)⟩)
      | none, .unbound =>
        (.undefined b.sequence.description, ⟨e.config, .undefined (e.taken + 1)⟩)
      | _, _ => (.pending, ⟨e.config, .building b (e.taken + 1)⟩) := by
  rcases e.builder.feed_cases e.config key with ⟨m, hStep, hBuilder⟩ | ⟨-, m, hStep, hBuilder⟩
  · obtain ⟨hFed, hEpisode⟩ := feed_of_appended store hStep
    rw [hFed, hEpisode, hBuilder]
    cases hStore : store (e.builder.sequence.push ⟨m, key.token⟩).description <;>
      simp only [dispatch, hStore]
  · obtain ⟨hFed, hEpisode⟩ := feed_of_needsKey store hStep
    rw [hFed, hEpisode, hBuilder]

theorem feed_spec (e : Episode) (store : Store α) (key : Key) :
    (e.feed store key).episode.config = e.config ∧
    (e.feed store key).episode.keysConsumed = e.taken + 1 ∧
    ((e.feed store key).episode.isBuilding = true ↔ (e.feed store key).step = .pending) := by
  have hFeed := e.feed_eq store key
  dsimp only at hFeed
  split at hFeed <;>
    · obtain ⟨hStep, hEpisode⟩ := Prod.mk.inj hFeed
      rw [hStep, hEpisode]
      simp [keysConsumed, isBuilding]

end Episode

end Keychord
