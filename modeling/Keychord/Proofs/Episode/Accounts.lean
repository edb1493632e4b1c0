import Keychord.Proofs.Episode.Actions

/-!
# Keys accounted for

The number of keys that an episode reports is the number that its chords cost, with one more for a
trigger that is still waiting for its token.  The number stays when the episode has ended, and is
then the cost of the sequence that was reported at the end.  None of this depends on the
configuration being valid: triggers may share a token.
-/

namespace Keychord

/-- What a builder has read has cost what its chords cost, and a key for the trigger that is
pending. -/
theorem Builder.Spelled.length_eq {c : Config} {b : Builder} {tokens : List String}
    (h : Spelled c b tokens) : tokens.length = b.sequence.cost + b.pending.toList.length := by
  rw [h.tokens, List.length_append, Config.length_spelling]
  cases hPending : b.pending with
  | none => rfl
  | some m =>
    obtain ⟨trigger, hTrigger⟩ : ∃ trigger, c.triggerToken? m = some trigger := by
      rw [← Option.ne_none_iff_exists']
      exact fun hNone => (h.pending m hPending).1 (Config.triggerToken?_eq_none_iff.mp hNone)
    rw [Option.bind_some, hTrigger]
    rfl

namespace Episode

variable {α : Type} {e : Episode} {keys : List Key} {s : KeySequence}

/-! ## While an episode is going on -/

/-- What holds of an episode that is going on: it has a chord or a trigger, a trigger that keeps
Control away has a chord before it, and the keys are those of the chords and the trigger. -/
structure Accounted (e : Episode) : Prop where
  begun : e.builder.sequence.chords ≠ [] ∨ e.builder.pending ≠ none
  plain : e.builder.pending = some .plain → e.builder.sequence.chords ≠ []
  keys : e.keysConsumed = e.builder.sequence.cost + e.builder.pending.toList.length

theorem HasRead.accounted (h : e.HasRead keys) (hBuilding : e.isBuilding = true) :
    e.Accounted := by
  have hSpelled := h.spelled
  have hKeys := h.building.mp hBuilding
  refine ⟨?_, fun hPlain hNil => ?_, ?_⟩
  · -- With neither of them, the keys would spell nothing.
    by_contra hNone
    simp only [not_or, not_not] at hNone
    have hTokens := hSpelled.tokens
    rw [Config.spelling_of_nil hNone.1, hNone.2] at hTokens
    exact hKeys (List.map_eq_nil_iff.mp hTokens)
  · exact (hSpelled.pending .plain hPlain).2 ⟨by rw [KeySequence.isEmpty, hNil]; rfl, rfl⟩
  · have hTaken := h.taken
    rw [Episode.taken, if_pos hBuilding] at hTaken
    rw [hTaken, ← List.length_map Key.token, hSpelled.length_eq]

/-! ## When an episode has ended -/

/-- A run has ended an episode: with one key a sequence was completed and the step was given, and
only configurations have come after that. -/
def EndedWith (c : Config) (actions : List (Action α)) (s : KeySequence) (step : Step α) : Prop :=
  ∃ before store key later, actions = before ++ .feed store key :: later ∧
    (∀ a ∈ later, ∃ c', a = .setConfig c') ∧
    let e := after { config := c } before
    (e.builder.feed e.config key).builder = { sequence := s } ∧ (e.feed store key).step = step

/-- The keys of an episode that a run has left ended are what its sequence cost. -/
def Settled (c : Config) (actions : List (Action α)) : Phase → Prop
  | .start | .building _ _ => True
  | .resolved n => ∃ s command, EndedWith c actions s (.command s.description command) ∧ n = s.cost
  | .undefined n => ∃ s, EndedWith c actions s (.undefined s.description) ∧ n = s.cost

theorem EndedWith.setConfig {c : Config} {actions : List (Action α)} {step : Step α}
    (h : EndedWith c actions s step) (c' : Config) :
    EndedWith c (actions ++ [.setConfig c']) s step := by
  obtain ⟨before, store, key, later, rfl, hLater, hBuilt, hStep⟩ := h
  refine ⟨before, store, key, later ++ [.setConfig c'], by simp, ?_, hBuilt, hStep⟩
  exact List.forall_mem_append.mpr ⟨hLater, List.forall_mem_singleton.mpr ⟨c', rfl⟩⟩

theorem Settled.setConfig {c : Config} {actions : List (Action α)} {phase : Phase}
    (h : Settled c actions phase) (c' : Config) :
    Settled c (actions ++ [.setConfig c']) phase := by
  cases phase with
  | start => trivial
  | building b n => trivial
  | resolved n =>
    obtain ⟨s, command, hEnded, hCost⟩ := h
    exact ⟨s, command, hEnded.setConfig c', hCost⟩
  | undefined n =>
    obtain ⟨s, hEnded, hCost⟩ := h
    exact ⟨s, hEnded.setConfig c', hCost⟩

theorem HasRead.cost_eq (h : e.HasRead keys) {key : Key}
    (hBuilt : (e.builder.feed e.config key).builder = { sequence := s }) :
    s.cost = e.taken + 1 := by
  have hSpelled := Builder.spelled_feedAll e.config (keys ++ [key])
  rw [← h.builder_feed key, hBuilt] at hSpelled
  have hLength := hSpelled.length_eq
  rw [List.length_map, List.length_append, ← h.taken] at hLength
  exact hLength.symm

/-- A key that ends an episode completes a sequence that costs all its keys. -/
theorem settled_feed (c : Config) (actions : List (Action α)) (store : Store α) (key : Key) :
    Settled c (actions ++ [.feed store key])
      ((after { config := c } actions).feed store key).episode.phase := by
  obtain ⟨keys, hRead, -⟩ := exists_hasRead c actions
  have hFeed := (after { config := c } actions).feed_eq store key
  dsimp only at hFeed
  split at hFeed
  · next command hIdle hStore =>
    obtain ⟨hStep, hEpisode⟩ := Prod.mk.inj hFeed
    have hBuilt := Builder.eq_of_pending_none hIdle
    rw [hEpisode]
    exact ⟨_, command, ⟨actions, store, key, [], rfl, by simp, hBuilt, hStep⟩,
      (hRead.cost_eq hBuilt).symm⟩
  · next hIdle hStore =>
    obtain ⟨hStep, hEpisode⟩ := Prod.mk.inj hFeed
    have hBuilt := Builder.eq_of_pending_none hIdle
    rw [hEpisode]
    exact ⟨_, ⟨actions, store, key, [], rfl, by simp, hBuilt, hStep⟩, (hRead.cost_eq hBuilt).symm⟩
  · rw [(Prod.mk.inj hFeed).2]
    trivial

theorem settled_after (c : Config) (actions : List (Action α)) :
    Settled c actions (after { config := c } actions).phase := by
  induction actions using List.reverseRecOn with
  | nil => trivial
  | append_singleton actions a ih =>
    rw [after_append]
    cases a with
    | feed store key => exact settled_feed c actions store key
    | abort => trivial
    | setConfig c' =>
      change Settled _ _ ((after { config := c } actions).trySetConfig c').2.phase
      rw [phase_trySetConfig]
      exact ih.setConfig c'

/-- After any run of keys, aborts and configurations, valid or not, with any store at any key, an
episode has nothing at its start, has chords and a trigger whose keys it counts while it goes on,
and keeps the cost of the sequence that it reported when it has ended. -/
theorem keys_accounted_after (c : Config) (actions : List (Action α)) :
    let e := after { config := c } actions
    match e.phase with
    | .start => e.builder = {} ∧ e.keysConsumed = 0
    | .building _ _ => e.Accounted
    | .resolved _ =>
      e.builder = {} ∧ ∃ s command,
        EndedWith c actions s (.command s.description command) ∧ e.keysConsumed = s.cost
    | .undefined _ =>
      e.builder = {} ∧ ∃ s,
        EndedWith c actions s (.undefined s.description) ∧ e.keysConsumed = s.cost := by
  have hSettled := settled_after c actions
  obtain ⟨keys, hRead, -⟩ := exists_hasRead c actions
  generalize after { config := c } actions = e at *
  obtain ⟨config, phase⟩ := e
  cases phase with
  | start => exact ⟨rfl, rfl⟩
  | building b n => exact hRead.accounted rfl
  | resolved n => exact ⟨rfl, hSettled⟩
  | undefined n => exact ⟨rfl, hSettled⟩

end Episode

end Keychord
