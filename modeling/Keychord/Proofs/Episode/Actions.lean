import Keychord.Proofs.Builder.Runs

/-!
# Runs of an episode

An episode is fed keys, aborted and given other configurations, in any order and with any store at
any key.  `HasRead` says which keys the episode that is going on has read, all of them under the
configuration that it has.  Every action keeps it (`HasRead.act`), so after every run there are such
keys (`exists_hasRead`).
-/

namespace Keychord.Episode

variable {α : Type}

/-- What can be done with an episode. -/
inductive Action (α : Type) where
  | feed (store : Store α) (key : Key)
  | abort
  | setConfig (config : Config)

/-- What comes back from an action. -/
inductive Answer (α : Type) where
  | step (step : Step α)
  | aborted
  | set (result : Except ConfigError Unit)

/-- The key that an action brings. -/
def Action.keys : Action α → List Key
  | .feed _ key => [key]
  | .abort | .setConfig _ => []

/-- The answer to an action, and the episode as it stands then. -/
def act (e : Episode) : Action α → Answer α × Episode
  | .feed store key =>
    let fed := e.feed store key
    (.step fed.step, fed.episode)
  | .abort => (.aborted, e.abort.1)
  | .setConfig config =>
    let (result, e') := e.trySetConfig config
    (.set result, e')

/-- An episode after some actions. -/
def after (e : Episode) (actions : List (Action α)) : Episode :=
  actions.foldl (fun e a => (e.act a).2) e

@[simp] theorem after_nil (e : Episode) : e.after ([] : List (Action α)) = e := rfl

@[simp] theorem after_cons (e : Episode) (a : Action α) (actions : List (Action α)) :
    e.after (a :: actions) = (e.act a).2.after actions := rfl

@[simp] theorem after_append (e : Episode) (actions actions' : List (Action α)) :
    e.after (actions ++ actions') = (e.after actions).after actions' := List.foldl_append

/-! ## One action -/

/-- A configuration is refused while an episode is going on, valid or not, and between episodes if
it is not valid.  A refusal leaves the episode as it is. -/
theorem trySetConfig_eq (e : Episode) (c : Config) :
    e.trySetConfig c =
      if e.isBuilding then (.error .episodeInProgress, e)
      else
        match c.validate with
        | .error err => (.error err, e)
        | .ok () => (.ok (), { e with config := c }) := by
  have hRun : e.trySetConfig c =
      (if e.isBuilding then throw .episodeInProgress
      else do
        MonadExcept.ofExcept c.validate
        modify fun e => { e with config := c } :
          ExceptT ConfigError (StateM Episode) Unit).run.run e := rfl
  rw [hRun]
  split
  · rfl
  · cases c.validate <;> rfl

/-- The ways in which setting a configuration can end. -/
theorem trySetConfig_cases (e : Episode) (c : Config) :
    (e.isBuilding = true ∧ e.trySetConfig c = (.error .episodeInProgress, e)) ∨
    (e.isBuilding = false ∧ ∃ err, c.validate = .error err ∧ e.trySetConfig c = (.error err, e)) ∨
    (e.isBuilding = false ∧ c.validate = .ok () ∧
      e.trySetConfig c = (.ok (), { e with config := c })) := by
  rw [trySetConfig_eq]
  cases hBuilding : e.isBuilding with
  | true => exact Or.inl ⟨rfl, rfl⟩
  | false =>
    cases hValid : c.validate with
    | error err => exact Or.inr (Or.inl ⟨rfl, err, rfl, rfl⟩)
    | ok _ => exact Or.inr (Or.inr ⟨rfl, rfl, rfl⟩)

theorem phase_trySetConfig (e : Episode) (c : Config) : (e.trySetConfig c).2.phase = e.phase := by
  rcases e.trySetConfig_cases c with ⟨-, hEq⟩ | ⟨-, err, -, hEq⟩ | ⟨-, -, hEq⟩ <;> rw [hEq]

theorem trySetConfig_of_isBuilding {e : Episode} {c : Config}
    (h : (e.trySetConfig c).2.isBuilding = true) : (e.trySetConfig c).2 = e := by
  have hBuilding : e.isBuilding = true := by
    rwa [isBuilding, phase_trySetConfig] at h
  rw [trySetConfig_eq, if_pos hBuilding]

theorem config_act {e : Episode} {a : Action α} (h : (e.act a).2.isBuilding = true) :
    (e.act a).2.config = e.config := by
  cases a with
  | feed store key => exact (e.feed_spec store key).1
  | abort => rfl
  | setConfig c => exact congrArg config (trySetConfig_of_isBuilding h)

/-! ## What has been read -/

/-- The episode that is going on has read some keys, under the configuration that it has: it has
counted them, and stands where a builder stands after them.  None have been read if no episode is
going on. -/
structure HasRead (e : Episode) (keys : List Key) : Prop where
  builder : e.builder = Builder.feedAll {} e.config keys
  taken : e.taken = keys.length
  building : e.isBuilding = true ↔ keys ≠ []

theorem hasRead_of_idle {e : Episode} (h : e.isBuilding = false) : e.HasRead [] where
  builder := builder_of_idle h
  taken := taken_of_idle h
  building := by simp [h]

namespace HasRead

variable {e : Episode} {keys : List Key}

theorem spelled (h : e.HasRead keys) :
    Builder.Spelled e.config e.builder (keys.map Key.token) :=
  h.builder ▸ Builder.spelled_feedAll e.config keys

theorem builder_feed (h : e.HasRead keys) (key : Key) :
    (e.builder.feed e.config key).builder = Builder.feedAll {} e.config (keys ++ [key]) := by
  rw [h.builder, Builder.feedAll_append]
  rfl

theorem feed (h : e.HasRead keys) (store : Store α) (key : Key)
    (hBuilding : (e.feed store key).episode.isBuilding = true) :
    (e.feed store key).episode.HasRead (keys ++ [key]) := by
  have hFeed := e.feed_eq store key
  dsimp only at hFeed
  split at hFeed
  · rw [(Prod.mk.inj hFeed).2] at hBuilding
    cases hBuilding
  · rw [(Prod.mk.inj hFeed).2] at hBuilding
    cases hBuilding
  · rw [(Prod.mk.inj hFeed).2]
    refine ⟨h.builder_feed key, ?_, by simp [isBuilding]⟩
    rw [List.length_append, ← h.taken]
    rfl

/-- Every action keeps what has been read, if the episode goes on. -/
theorem act (h : e.HasRead keys) (a : Action α) (hBuilding : (e.act a).2.isBuilding = true) :
    (e.act a).2.HasRead (keys ++ a.keys) := by
  cases a with
  | feed store key => exact h.feed store key hBuilding
  | abort => cases hBuilding
  | setConfig c =>
    have hSame : (e.act (.setConfig c : Action α)).2 = e := trySetConfig_of_isBuilding hBuilding
    rw [hSame, Action.keys, List.append_nil]
    exact h

end HasRead

/-- Whatever is done with an episode, it has read the last keys that came, as many as belong to the
episode that is going on, under the configuration that it has. -/
theorem exists_hasRead (c : Config) (actions : List (Action α)) :
    ∃ keys, (after { config := c } actions).HasRead keys ∧
      keys <:+ actions.flatMap Action.keys := by
  induction actions using List.reverseRecOn with
  | nil => exact ⟨[], hasRead_of_idle rfl, List.nil_suffix⟩
  | append_singleton actions a ih =>
    obtain ⟨keys, hRead, before, hBefore⟩ := ih
    rw [after_append]
    cases hBuilding : ((after { config := c } actions).act a).2.isBuilding with
    | false => exact ⟨[], hasRead_of_idle hBuilding, List.nil_suffix⟩
    | true =>
      refine ⟨keys ++ a.keys, hRead.act a hBuilding, before, ?_⟩
      rw [List.flatMap_append, ← hBefore, List.append_assoc]
      simp

theorem exists_token_eq_of_mem_feed (c : Config) (actions : List (Action α)) {key : Key}
    {chord : Chord}
    (h : let e := after { config := c } actions
      chord ∈ (e.builder.feed e.config key).builder.sequence.chords) :
    ∃ k ∈ actions.flatMap Action.keys ++ [key], k.token = chord.token := by
  obtain ⟨keys, hRead, hLast⟩ := exists_hasRead c actions
  dsimp only at h
  rw [hRead.builder_feed key] at h
  obtain ⟨k, hk, hToken⟩ := Builder.exists_token_eq_of_mem h
  refine ⟨k, ?_, hToken⟩
  rw [List.mem_append] at hk ⊢
  exact hk.imp_left fun hBefore => hLast.subset hBefore

end Keychord.Episode
