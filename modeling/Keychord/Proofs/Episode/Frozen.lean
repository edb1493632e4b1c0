import Keychord.Interpreter
import Keychord.Proofs.Episode.Actions

/-!
# Configurations change between episodes only

A configuration that is refused leaves no trace: the run goes on as if it had not been there
(`trace_accepted`).  One that is accepted comes between two episodes.  So an episode is read under
the configuration of its first key, from there to its end: `Config.stepOn` says what the keys of an
episode come to under one configuration, and `HasRead.step_feed` that an episode comes to that.
-/

namespace Keychord

variable {α : Type}

/-- What the last of some keys does to an episode that has read them all under one configuration.
The store is asked about the groups that the keys are cut into, unless a trigger is left over. -/
def Config.stepOn (c : Config) (store : Store α) (keys : List Key) : Episode.Step α :=
  let groups := c.groups true (keys.map Key.token)
  let text := KeySequence.description ⟨groups.map Group.chord⟩
  if (groups.map Group.keys).sum = keys.length then
    match store text with
    | .command command => .command text command
    | .unbound => .undefined text
    | .nested => .pending
  else .pending

namespace Episode

variable {e : Episode} {keys : List Key}

/-! ## Refused configurations -/

/-- Whether an answer refuses a configuration. -/
def Answer.isRefusal : Answer α → Bool
  | .set (.error _) => true
  | _ => false

/-- The answers to some actions, each with the episode as it stands then. -/
def trace (e : Episode) : List (Action α) → List (Answer α × Episode)
  | [] => []
  | a :: actions => e.act a :: (e.act a).2.trace actions

/-- Some actions without the configurations that are refused. -/
def accepted (e : Episode) : List (Action α) → List (Action α)
  | [] => []
  | a :: actions =>
    if (e.act a).1.isRefusal then (e.act a).2.accepted actions
    else a :: (e.act a).2.accepted actions

theorem act_of_isRefusal {a : Action α} (h : (e.act a).1.isRefusal = true) : (e.act a).2 = e := by
  cases a with
  | feed store key => cases h
  | abort => cases h
  | setConfig c =>
    rcases e.trySetConfig_cases c with ⟨-, hEq⟩ | ⟨-, err, -, hEq⟩ | ⟨-, -, hEq⟩
    · rw [act, hEq]
    · rw [act, hEq]
    · rw [act, hEq] at h
      cases h

/-- Without the refused configurations, a run gives all other answers and comes to all other
episodes. -/
theorem trace_accepted (e : Episode) (actions : List (Action α)) :
    e.trace (e.accepted actions) = (e.trace actions).filter fun r => !r.1.isRefusal := by
  induction actions generalizing e with
  | nil => rfl
  | cons a actions ih =>
    rw [accepted, trace, List.filter_cons]
    cases hRefusal : (e.act a).1.isRefusal with
    | true =>
      rw [if_pos rfl, act_of_isRefusal hRefusal]
      exact ih e
    | false => exact congrArg (e.act a :: ·) (ih (e.act a).2)

theorem after_accepted (e : Episode) (actions : List (Action α)) :
    e.after (e.accepted actions) = e.after actions := by
  induction actions generalizing e with
  | nil => rfl
  | cons a actions ih =>
    rw [accepted, after_cons]
    split
    · next hRefusal =>
      rw [act_of_isRefusal hRefusal]
      exact ih e
    · exact ih (e.act a).2

/-! ## One episode -/

/-- An episode goes on after each of some actions. -/
def Underway (e : Episode) : List (Action α) → Prop
  | [] => True
  | a :: actions => (e.act a).2.isBuilding = true ∧ (e.act a).2.Underway actions

namespace HasRead

/-- As long as an episode goes on, it reads all keys under one configuration. -/
theorem along {actions : List (Action α)} (h : e.HasRead keys) (hUnderway : e.Underway actions) :
    (e.after actions).HasRead (keys ++ actions.flatMap Action.keys) ∧
      (e.after actions).config = e.config := by
  induction actions generalizing e keys with
  | nil =>
    rw [List.flatMap_nil, List.append_nil]
    exact ⟨h, rfl⟩
  | cons a actions ih =>
    obtain ⟨hBuilding, hUnderway⟩ := hUnderway
    obtain ⟨hRead, hConfig⟩ := ih (h.act a hBuilding) hUnderway
    rw [List.flatMap_cons, ← List.append_assoc, after_cons]
    exact ⟨hRead, hConfig.trans (config_act hBuilding)⟩

theorem chords_eq (h : e.HasRead keys) :
    e.builder.sequence.chords =
      (e.config.groups true (keys.map Key.token)).map Group.chord := by
  rw [h.builder, Builder.chords_feedAll, Builder.groups_empty]
  rfl

theorem step_feed (h : e.HasRead keys) (store : Store α) (key : Key) :
    (e.feed store key).step = e.config.stepOn store (keys ++ [key]) := by
  have hStep := congrArg Prod.fst (e.feed_eq store key)
  have hChords := Builder.chords_feedAll {} e.config (keys ++ [key])
  have hSum := Builder.sum_keys_groups {} e.config (keys ++ [key])
  rw [← h.builder_feed key, Builder.groups_empty] at hChords hSum
  dsimp only at hStep
  generalize (e.builder.feed e.config key).builder = b at *
  have hSequence : b.sequence =
      ⟨(e.config.groups true ((keys ++ [key]).map Key.token)).map Group.chord⟩ :=
    KeySequence.ext hChords
  rw [hStep, Config.stepOn, ← hSequence]
  cases hPending : b.pending with
  | some m =>
    rw [hPending] at hSum
    rw [if_neg (by simp at hSum ⊢; omega)]
  | none =>
    rw [hPending] at hSum
    rw [if_pos (by simpa using hSum)]
    cases store b.sequence.description <;> rfl

end HasRead

theorem echo_congr {e e' : Episode} (h : e.phase = e'.phase) : e.echo = e'.echo := by
  obtain ⟨c, phase⟩ := e
  obtain ⟨c', phase'⟩ := e'
  obtain rfl : phase = phase' := h
  rfl

theorem keysConsumed_congr {e e' : Episode} (h : e.phase = e'.phase) :
    e.keysConsumed = e'.keysConsumed := by
  simp only [keysConsumed, h]

/-- What becomes of another configuration: it is refused while an episode is going on, valid or not;
between episodes it is refused if it is not valid, and set if it is.  Nothing else changes. -/
structure Guards (e : Episode) (c : Config) : Prop where
  inProgress : (e.trySetConfig c).1 = .error .episodeInProgress ↔ e.isBuilding = true
  invalid : ∀ err, err ≠ .episodeInProgress →
    ((e.trySetConfig c).1 = .error err ↔ e.isBuilding = false ∧ c.validate = .error err)
  refused : (e.trySetConfig c).1 ≠ .ok () → (e.trySetConfig c).2 = e
  set : (e.trySetConfig c).1 = .ok () → (e.trySetConfig c).2.config = c
  phase : (e.trySetConfig c).2.phase = e.phase
  echo : (e.trySetConfig c).2.echo = e.echo
  keys : (e.trySetConfig c).2.keysConsumed = e.keysConsumed

theorem guards (e : Episode) (c : Config) : e.Guards c := by
  have hPhase := e.phase_trySetConfig c
  have hEcho := echo_congr hPhase
  have hKeys := keysConsumed_congr hPhase
  rcases e.trySetConfig_cases c with
    ⟨hBuilding, hEq⟩ | ⟨hIdle, err, hValid, hEq⟩ | ⟨hIdle, hValid, hEq⟩
  · refine ⟨by simp [hEq, hBuilding], fun err hErr => ?_, by simp [hEq], by simp [hEq], hPhase,
      hEcho, hKeys⟩
    simp [hEq, hBuilding, hErr.symm]
  · have hErr : err ≠ .episodeInProgress := by
      rintro rfl
      exact c.validate_ne_episodeInProgress hValid
    exact ⟨by simp [hEq, hIdle, hErr], by simp [hEq, hIdle, hValid], by simp [hEq], by simp [hEq],
      hPhase, hEcho, hKeys⟩
  · exact ⟨by simp [hEq, hIdle], by simp [hEq, hValid], by simp [hEq], by simp [hEq], hPhase, hEcho,
      hKeys⟩

end Episode

/-! ## Interpreters -/

namespace Interpreter

theorem trySetConfig_eq (i : Interpreter) (c : Config) :
    i.trySetConfig c =
      match c.validate with
      | .error err => (.error err, i)
      | .ok () => (.ok (), { config := c }) := by
  unfold trySetConfig setConfigM
  cases c.validate <;> rfl

/-- The interpreters that there can be. -/
inductive Reached : Interpreter → Prop
  | initial : Reached {}
  | made {c : Config} {i : Interpreter} (hMade : ofConfig c = .ok i) : Reached i
  | set {i : Interpreter} (hReached : Reached i) (c : Config) : Reached (i.trySetConfig c).2

theorem validate_of_ofConfig {c : Config} {i : Interpreter} (h : ofConfig c = .ok i) :
    i.config.validate = .ok () := by
  unfold ofConfig at h
  cases hValid : c.validate with
  | error err =>
    rw [hValid] at h
    cases h
  | ok _ =>
    rw [hValid] at h
    obtain rfl := Except.ok.inj h
    exact hValid

theorem Reached.validate {i : Interpreter} (h : Reached i) : i.config.validate = .ok () := by
  induction h with
  | initial => rfl
  | made hMade => exact validate_of_ofConfig hMade
  | set _ c ih =>
    rw [trySetConfig_eq]
    cases hValid : c.validate with
    | error err => exact ih
    | ok _ => exact hValid

end Interpreter

namespace Episode

/-- After any run, another configuration is set between episodes only and if it is valid; the
refused ones could be left out of the run.  An episode that begins then, and whatever is tried while
it goes on, is read under the configuration that it has found, up to the key that ends it.  An
interpreter always has a valid configuration, which a refused one does not change. -/
theorem config_frozen_while_building (c : Config) (actions : List (Action α)) :
    let start : Episode := { config := c }
    let e := start.after actions
    (∀ c', e.Guards c') ∧
    start.trace (start.accepted actions) =
      (start.trace actions).filter (fun r => !r.1.isRefusal) ∧
    start.after (start.accepted actions) = e ∧
    (∀ later : List (Action α), e.isBuilding = false → e.Underway later →
      let keys := later.flatMap Action.keys
      (e.after later).config = e.config ∧
      (e.after later).builder.sequence.chords =
        (e.config.groups true (keys.map Key.token)).map Group.chord ∧
      ∀ (store : Store α) (key : Key),
        ((e.after later).feed store key).step = e.config.stepOn store (keys ++ [key])) ∧
    ∀ i : Interpreter, i.Reached → i.config.validate = .ok () ∧
      ∀ c', (i.trySetConfig c').1 = c'.validate ∧
        ∀ err, (i.trySetConfig c').1 = .error err → (i.trySetConfig c').2 = i := by
  dsimp only
  refine ⟨fun c' => guards _ c', trace_accepted _ actions, after_accepted _ actions, ?_, ?_⟩
  · intro later hIdle hUnderway
    obtain ⟨hRead, hConfig⟩ := (hasRead_of_idle hIdle).along hUnderway
    have hChords := hRead.chords_eq
    rw [hConfig] at hChords
    refine ⟨hConfig, hChords, fun store key => ?_⟩
    rw [hRead.step_feed, hConfig]
    rfl
  · intro i hReached
    refine ⟨hReached.validate, fun c' => ?_⟩
    rw [Interpreter.trySetConfig_eq]
    cases c'.validate with
    | error err => exact ⟨rfl, fun _ _ => rfl⟩
    | ok _ => exact ⟨rfl, by rintro err ⟨⟩⟩

/-- An episode keeps the Meta trigger that was set before it: its keys are the new trigger's, and a
change in the middle is refused. -/
theorem config_frozen_with_meta_set :
    let nested : Store String := fun _ => .nested
    let e := after {} [(.setConfig { metaTrigger := "m" } : Action String)]
    let later : List (Action String) :=
      [.feed nested (.char 'x'), .setConfig {}, .feed nested (.char 'g')]
    e.isBuilding = false ∧ e.Underway later ∧
    (e.after later).config = { metaTrigger := "m" } ∧
    (e.after later).builder.sequence.chords = [⟨.control, "x"⟩, ⟨.control, "g"⟩] ∧
    ((e.after later).feed nested (.char 'm')).step = .pending := by
  intro nested e later
  have hIdle : e.isBuilding = false := by decide
  have hUnderway : e.Underway later := ⟨by decide, by decide, by decide, trivial⟩
  obtain ⟨-, -, -, hEpisode, -⟩ :=
    config_frozen_while_building {} [(.setConfig { metaTrigger := "m" } : Action String)]
  obtain ⟨hConfig, hChords, hStep⟩ := hEpisode later hIdle hUnderway
  refine ⟨hIdle, hUnderway, hConfig.trans (by decide), hChords.trans (by decide), ?_⟩
  rw [hStep]
  decide

end Episode

end Keychord
