import Keychord.Proofs.Loop.Episodes
import Keychord.Proofs.Loop.Recording

/-!
# What a loop that runs commands does

`Driven` says it episode by episode: a command is told and then run, an undefined sequence or an
interruption is shown, and the loop goes on with what is left of the script; it stops where the
source closes or fails, or a command does.  There is one way to drive a script, and a loop takes it.
-/

namespace Keychord

variable {σ α : Type}

namespace Interpreter

/-- What a loop does on a script: its actions, its state in the end, its answer and the rest. -/
inductive Driven (i : Interpreter) (store : Store α) (ex : Executor σ α)
    (notify : Notification → σ → σ) :
    σ → Script → List (Loop.Action α) → σ → Except Error Nat → Script → Prop
  | closed {s : σ} {script rest : Script}
      (read : (i.lookup store script).seen = (.error (.input .closed), rest)) :
      Driven i store ex notify s script [] s (.ok 0) rest
  | terminal {s : σ} {script rest : Script} {reason : String}
      (read : (i.lookup store script).seen = (.error (.input (.terminal reason)), rest)) :
      Driven i store ex notify s script [] s (.error (.input (.terminal reason))) rest
  | failed {s s' : σ} {script rest : Script} {r : Resolved α} {reason : String}
      (read : (i.lookup store script).seen = (.ok r, rest))
      (run : ex.execute r.command (ex.setLast r.command s) = (s', some reason)) :
      Driven i store ex notify s script
        [.setLast r.command, .execute r.command (some reason)] s' (.error (.execution reason)) rest
  | executed {s s₁ s' : σ} {script script₁ rest : Script} {r : Resolved α}
      {actions : List (Loop.Action α)} {answer : Except Error Nat}
      (read : (i.lookup store script).seen = (.ok r, script₁))
      (run : ex.execute r.command (ex.setLast r.command s) = (s₁, none))
      (next : Driven i store ex notify s₁ script₁ actions s' answer rest) :
      Driven i store ex notify s script
        (.setLast r.command :: .execute r.command none :: actions) s' (answer.map (· + 1)) rest
  | undefined {s s' : σ} {script script₁ rest : Script} {sequence : String}
      {actions : List (Loop.Action α)} {answer : Except Error Nat}
      (read : (i.lookup store script).seen = (.error (.unresolved sequence), script₁))
      (next : Driven i store ex notify (notify ⟨sequence ++ " is undefined", .warning, 5⟩ s)
        script₁ actions s' answer rest) :
      Driven i store ex notify s script
        (.notify ⟨sequence ++ " is undefined", .warning, 5⟩ :: actions) s' answer rest
  | interrupted {s s' : σ} {script script₁ rest : Script} {key : String}
      {actions : List (Loop.Action α)} {answer : Except Error Nat}
      (read : (i.lookup store script).seen = (.error (.input (.interrupted key)), script₁))
      (next : Driven i store ex notify (notify ⟨"Quit (" ++ key ++ ")", .info, 5⟩ s)
        script₁ actions s' answer rest) :
      Driven i store ex notify s script
        (.notify ⟨"Quit (" ++ key ++ ")", .info, 5⟩ :: actions) s' answer rest

end Interpreter

/-! ## Where a loop stops -/

/-- An item that a loop does not stop at whatever the handler does. -/
def Item.Passed : Item → Prop
  | .failure .closed | .failure (.terminal _) => False
  | _ => True

theorem Item.passed_of_heard {heard : Script} (h : ∀ cause, .failure cause ∉ heard) :
    ∀ item ∈ heard, item.Passed := by
  intro item hItem
  cases item with
  | failure cause => exact absurd hItem (h cause)
  | key key => trivial
  | ignored event => trivial

/-- The items that a loop has read, its answer and the rest: it has stopped at the first item that
it could not pass, or at a key with a command that failed, or the script has been used up. -/
inductive Loop.StoppedAt : Script → Except Error Nat → Script → Prop
  | exhausted {items : Script} {count : Nat} (passed : ∀ item ∈ items, item.Passed) :
      StoppedAt items (.ok count) []
  | closed {items rest : Script} {count : Nat} (passed : ∀ item ∈ items, item.Passed) :
      StoppedAt (items ++ [.failure .closed]) (.ok count) rest
  | terminal {items rest : Script} {reason : String} (passed : ∀ item ∈ items, item.Passed) :
      StoppedAt (items ++ [.failure (.terminal reason)]) (.error (.input (.terminal reason))) rest
  | failed {items rest : Script} {key : Key} {reason : String}
      (passed : ∀ item ∈ items, item.Passed) :
      StoppedAt (items ++ [.key key]) (.error (.execution reason)) rest

namespace Loop.StoppedAt

variable {items script rest : Script} {answer : Except Error Nat}

theorem passing {before : Script} (hPassed : ∀ item ∈ before, item.Passed)
    (h : StoppedAt items answer rest) : StoppedAt (before ++ items) answer rest := by
  cases h with
  | exhausted h => exact .exhausted (List.forall_mem_append.mpr ⟨hPassed, h⟩)
  | closed h =>
    rw [← List.append_assoc]
    exact .closed (List.forall_mem_append.mpr ⟨hPassed, h⟩)
  | terminal h =>
    rw [← List.append_assoc]
    exact .terminal (List.forall_mem_append.mpr ⟨hPassed, h⟩)
  | failed h =>
    rw [← List.append_assoc]
    exact .failed (List.forall_mem_append.mpr ⟨hPassed, h⟩)

theorem behind {heard : Script} {item : Item} (hHeard : ∀ item ∈ heard, item.Passed)
    (hItem : item.Passed)
    (h : ∃ items, script = items ++ rest ∧ StoppedAt items answer rest) :
    ∃ items, heard ++ item :: script = items ++ rest ∧ StoppedAt items answer rest := by
  obtain ⟨items, rfl, hStopped⟩ := h
  refine ⟨heard ++ item :: items, (List.append_assoc heard (item :: items) rest).symm, ?_⟩
  have hRest : StoppedAt ([item] ++ items) answer rest :=
    hStopped.passing (List.forall_mem_singleton.mpr hItem)
  exact hRest.passing hHeard

theorem succ (h : ∃ items, script = items ++ rest ∧ StoppedAt items answer rest) :
    ∃ items, script = items ++ rest ∧ StoppedAt items (answer.map (· + 1)) rest := by
  obtain ⟨items, hScript, hStopped⟩ := h
  refine ⟨items, hScript, ?_⟩
  cases hStopped with
  | exhausted h => exact .exhausted h
  | closed h => exact .closed h
  | terminal h => exact .terminal h
  | failed h => exact .failed h

end Loop.StoppedAt

namespace Interpreter

variable {i : Interpreter} {store : Store α} {ex : Executor σ α} {notify : Notification → σ → σ}

/-! ## Driving a script -/

theorem lookup_ends {script rest : Script} {outcome : Outcome α}
    (h : (i.lookup store script).seen = (outcome, rest)) :
    ∃ heard, (∀ item ∈ heard, item.Passed) ∧
      ((script = heard ∧ outcome = .error (.input .closed) ∧ rest = []) ∨
        ∃ item, script = heard ++ item :: rest ∧ item.Ends outcome) := by
  obtain ⟨heard, hHeard, hCases⟩ := Episode.finish_ends { config := i.config } store script
  obtain ⟨rfl, rfl⟩ := Prod.mk.inj h
  refine ⟨heard, Item.passed_of_heard hHeard, ?_⟩
  rcases hCases with ⟨hScript, hSeen⟩ | ⟨item, hScript, hEnds⟩
  · obtain ⟨hResult, hRest⟩ := Prod.mk.inj hSeen
    exact .inl ⟨hScript, hResult, hRest⟩
  · exact .inr ⟨item, hScript, hEnds⟩

variable (i store ex notify)

/-- Every script can be driven, and is driven to where a loop has to stop. -/
theorem exists_driven (s : σ) (script : Script) :
    ∃ actions s' answer rest, i.Driven store ex notify s script actions s' answer rest ∧
      ∃ items, script = items ++ rest ∧ Loop.StoppedAt items answer rest := by
  -- What a lookup leaves is shorter, which the recursion of `Driven` does not show by itself.
  induction hLength : script.length using Nat.strongRecOn generalizing s script with
  | ind length ih =>
  obtain ⟨outcome, script₁, hRead⟩ : ∃ outcome script₁,
      (i.lookup store script).seen = (outcome, script₁) := ⟨_, _, rfl⟩
  obtain ⟨heard, hHeard, ⟨rfl, rfl, rfl⟩ | ⟨item, rfl, hEnds⟩⟩ := lookup_ends hRead
  · exact ⟨[], s, .ok 0, [], .closed hRead, script, by simp, .exhausted hHeard⟩
  have hShorter : script₁.length < length := by
    rw [← hLength, List.length_append, List.length_cons]
    omega
  have hStop : heard ++ item :: script₁ = (heard ++ [item]) ++ script₁ := by simp
  cases hEnds with
  | failure cause =>
    cases cause with
    | closed =>
      exact ⟨[], s, .ok 0, script₁, .closed hRead, _, hStop, .closed hHeard⟩
    | terminal reason =>
      exact ⟨[], s, _, script₁, .terminal hRead, _, hStop, .terminal hHeard⟩
    | interrupted key =>
      obtain ⟨actions, s', answer, rest, hDriven, hStopped⟩ :=
        ih _ hShorter (notify ⟨"Quit (" ++ key ++ ")", .info, 5⟩ s) script₁ rfl
      exact ⟨_, s', answer, rest, .interrupted hRead hDriven,
        Loop.StoppedAt.behind hHeard trivial hStopped⟩
  | command key r =>
    rcases hRun : ex.execute r.command (ex.setLast r.command s) with ⟨s₁, - | reason⟩
    · obtain ⟨actions, s', answer, rest, hDriven, hStopped⟩ := ih _ hShorter s₁ script₁ rfl
      exact ⟨_, s', _, rest, .executed hRead hRun hDriven,
        Loop.StoppedAt.succ (Loop.StoppedAt.behind hHeard trivial hStopped)⟩
    · exact ⟨_, s₁, _, script₁, .failed hRead hRun, _, hStop, .failed hHeard⟩
  | undefined key text =>
    obtain ⟨actions, s', answer, rest, hDriven, hStopped⟩ :=
      ih _ hShorter (notify ⟨text ++ " is undefined", .warning, 5⟩ s) script₁ rfl
    exact ⟨_, s', answer, rest, .undefined hRead hDriven,
      Loop.StoppedAt.behind hHeard trivial hStopped⟩

variable {i store ex notify}

theorem Driven.count {s s' : σ} {script rest : Script} {actions : List (Loop.Action α)}
    {answer : Except Error Nat} (h : i.Driven store ex notify s script actions s' answer rest) :
    ∀ count, answer = .ok count → count = actions.countP Loop.Action.succeeded := by
  induction h with
  | closed read =>
    rintro count ⟨⟩
    rfl
  | terminal read => rintro count ⟨⟩
  | failed read run => rintro count ⟨⟩
  | @executed _ _ _ _ _ _ _ _ answer read run next ih =>
    intro count hCount
    cases answer with
    | error e => cases hCount
    | ok n =>
      obtain rfl := Except.ok.inj hCount
      rw [ih n rfl]
      simp [List.countP_cons, Loop.Action.succeeded]
  | undefined read next ih | interrupted read next ih =>
    intro count hCount
    rw [ih count hCount]
    simp [Loop.Action.succeeded]

/-! ## The loop takes it -/

/-- What a loop came to, without its notes. -/
def ran (r : σ × Read Error Nat) : σ × Except Error Nat × Script := (r.1, r.2.seen)

section ran

variable {s s₁ s' : σ} {script script₁ rest : Script} {answer : Except Error Nat}

theorem ran_of_stop {outcome : Outcome α} {n : Nat} {unit : Except Error Unit}
    (hRead : (i.lookup store script).seen = (outcome, rest))
    (hReact : Loop.react (ex.handler notify).counting ⟨{ config := i.config }, (s, 0)⟩ outcome =
      .stop unit (s', n)) :
    ran (i.runUntilClosed store ex notify s script) = (s', unit.map fun _ => n, rest) := by
  obtain ⟨rfl, rfl⟩ := Prod.mk.inj hRead
  rw [lookup] at hReact
  simp only [runUntilClosed, loopState, Loop.run_eq_finish, Loop.runAfter, hReact]
  rfl

/-- Behind an episode that does not stop it, a loop does as a loop that begins there, and counts
on. -/
theorem ran_of_goOn {outcome : Outcome α} {n : Nat}
    (hRead : (i.lookup store script).seen = (outcome, script₁))
    (hReact : Loop.react (ex.handler notify).counting ⟨{ config := i.config }, (s, 0)⟩ outcome =
      .goOn ⟨{ config := i.config }, (s₁, n)⟩)
    (hNext : ran (i.runUntilClosed store ex notify s₁ script₁) = (s', answer, rest)) :
    ran (i.runUntilClosed store ex notify s script) = (s', answer.map (· + n), rest) := by
  obtain ⟨rfl, rfl⟩ := Prod.mk.inj hRead
  rw [lookup] at hReact
  have hRun := Loop.run_map ((ex.handler notify).counting_add n) store { config := i.config }
    (s₁, 0) (i.lookup store script).rest
  simp only [Prod.map, id, Nat.zero_add, lookup] at hRun
  simp only [ran, runUntilClosed, loopState, lookup, Read.seen] at hNext
  obtain ⟨rfl, rfl, rfl⟩ := hNext
  simp only [ran, runUntilClosed, loopState, Loop.run_eq_finish _ _ _ _ script, Loop.runAfter,
    hReact, hRun, Read.after, Read.seen]
  cases (Loop.run (ex.handler notify).counting store ⟨{ config := i.config }, (s₁, 0)⟩
    (Episode.finish { config := i.config } store script).rest).2.result <;> rfl

theorem ran_of_failed {r : Resolved α} {e : Error}
    (hRead : (i.lookup store script).seen = (.ok r, rest))
    (hCall : ex.call r.command s = (s', .error e)) :
    ran (i.runUntilClosed store ex notify s script) = (s', .error e, rest) := by
  have hReact : Loop.react (ex.handler notify).counting ⟨{ config := i.config }, (s, 0)⟩ (.ok r) =
      .stop (.error e) (s', 0) := by
    simp only [Loop.react, Handler.counting, Executor.handler, hCall]
  exact ran_of_stop hRead hReact

theorem ran_of_executed {r : Resolved α}
    (hRead : (i.lookup store script).seen = (.ok r, script₁))
    (hCall : ex.call r.command s = (s₁, .ok ()))
    (hNext : ran (i.runUntilClosed store ex notify s₁ script₁) = (s', answer, rest)) :
    ran (i.runUntilClosed store ex notify s script) = (s', answer.map (· + 1), rest) := by
  have hReact : Loop.react (ex.handler notify).counting ⟨{ config := i.config }, (s, 0)⟩ (.ok r) =
      .goOn ⟨{ config := i.config }, (s₁, 1)⟩ := by
    simp only [Loop.react, Handler.counting, Executor.handler, hCall]
  exact ran_of_goOn hRead hReact hNext

theorem ran_of_shown {e : Error} (hRead : (i.lookup store script).seen = (.error e, script₁))
    (hShown : (∃ sequence, e = .unresolved sequence) ∨ ∃ key, e = .input (.interrupted key))
    (hNext : ran (i.runUntilClosed store ex notify (notify (.ofError e) s) script₁) =
      (s', answer, rest)) :
    ran (i.runUntilClosed store ex notify s script) = (s', answer, rest) := by
  have hReact : Loop.react (ex.handler notify).counting ⟨{ config := i.config }, (s, 0)⟩
      (.error e : Outcome α) = .goOn ⟨{ config := i.config }, (notify (.ofError e) s, 0)⟩ := by
    obtain ⟨sequence, rfl⟩ | ⟨key, rfl⟩ := hShown <;> rfl
  have hZero : answer.map (· + 0) = answer := by cases answer <;> rfl
  rw [ran_of_goOn hRead hReact hNext, hZero]

end ran

theorem Driven.ran_eq {s s' : σ} {script rest : Script} {actions : List (Loop.Action α)}
    {answer : Except Error Nat} (h : i.Driven store ex notify s script actions s' answer rest)
    (log : List (Loop.Action α)) :
    ran (i.runRecorded store ex notify (s, log) script) = ((s', log ++ actions), answer, rest) := by
  induction h generalizing log with
  | closed read =>
    rw [List.append_nil]
    exact ran_of_stop read rfl
  | terminal read =>
    rw [List.append_nil]
    exact ran_of_stop read rfl
  | failed read run =>
    refine ran_of_failed read ?_
    rw [Executor.recording_call]
    simp only [Executor.call, run]
  | @executed s s₁ _ _ _ _ r _ _ read run next ih =>
    have hCall : ex.recording.call r.command (s, log) =
        ((s₁, log ++ [.setLast r.command, .execute r.command none]), .ok ()) := by
      rw [Executor.recording_call]
      simp only [Executor.call, run]
    have hNext := ih (log ++ [.setLast r.command, .execute r.command none])
    rw [List.append_assoc] at hNext
    exact ran_of_executed read hCall hNext
  | undefined read next ih =>
    refine ran_of_shown read (.inl ⟨_, rfl⟩) ?_
    rw [List.append_cons]
    exact ih _
  | interrupted read next ih =>
    refine ran_of_shown read (.inr ⟨_, rfl⟩) ?_
    rw [List.append_cons]
    exact ih _

/-- There is one way to drive a script. -/
theorem driven_iff_ran_eq (i : Interpreter) (store : Store α) (ex : Executor σ α)
    (notify : Notification → σ → σ) (s s' : σ) (log actions : List (Loop.Action α))
    (script rest : Script) (answer : Except Error Nat) :
    i.Driven store ex notify s script actions s' answer rest ↔
      ran (i.runRecorded store ex notify (s, log) script) =
        ((s', log ++ actions), answer, rest) := by
  constructor
  · intro h
    exact h.ran_eq log
  · intro h
    obtain ⟨actions₀, s₀, answer₀, rest₀, hDriven, -⟩ := exists_driven i store ex notify s script
    rw [hDriven.ran_eq log] at h
    simp only [Prod.mk.injEq, List.append_cancel_left_eq] at h
    obtain ⟨⟨rfl, rfl⟩, rfl, rfl⟩ := h
    exact hDriven

/-- A loop drives its script and does nothing else.  The answer counts the commands that were run
without a failure; the script is left right after the item at which the loop has stopped, and a loop
that is begun again does on the rest what it would have done if nothing had been before. -/
theorem runUntilClosed_driven (i : Interpreter) (store : Store α) (ex : Executor σ α)
    (notify : Notification → σ → σ) (s : σ) (log : List (Loop.Action α)) (script : Script) :
    let run := i.runRecorded store ex notify (s, log) script
    let again := i.runRecorded store ex notify run.1 run.2.rest
    let fresh := i.runRecorded store ex notify (run.1.1, []) run.2.rest
    i.runUntilClosed store ex notify s script = (run.1.1, run.2) ∧
    (∃ actions, run.1.2 = log ++ actions ∧
      (∀ actions' s' answer rest, i.Driven store ex notify s script actions' s' answer rest ↔
        actions' = actions ∧ s' = run.1.1 ∧ answer = run.2.result ∧ rest = run.2.rest) ∧
      ∀ count, run.2.result = .ok count → count = actions.countP Loop.Action.succeeded) ∧
    (∃ items, script = items ++ run.2.rest ∧
      Loop.StoppedAt items run.2.result run.2.rest) ∧
    again = ((fresh.1.1, run.1.2 ++ fresh.1.2), fresh.2) := by
  intro run again fresh
  obtain ⟨actions, s', answer, rest, hDriven, hStopped⟩ := exists_driven i store ex notify s script
  have hRan : ran run = ((s', log ++ actions), answer, rest) := hDriven.ran_eq log
  obtain ⟨hState, hSeen⟩ := Prod.mk.inj hRan
  have hInner : run.1.1 = s' := congrArg Prod.fst hState
  have hLog : run.1.2 = log ++ actions := congrArg Prod.snd hState
  obtain ⟨hAnswer, hRest⟩ := Prod.mk.inj hSeen
  refine ⟨i.runRecorded_forget store ex notify s log script, ⟨actions, hLog, ?_, ?_⟩, ?_, ?_⟩
  · intro actions' s'' answer' rest'
    rw [driven_iff_ran_eq i store ex notify s s'' log actions', hRan, hInner, hAnswer, hRest]
    simp only [Prod.mk.injEq, List.append_cancel_left_eq]
    constructor
    · rintro ⟨⟨rfl, rfl⟩, rfl, rfl⟩
      exact ⟨rfl, rfl, rfl, rfl⟩
    · rintro ⟨rfl, rfl, rfl, rfl⟩
      exact ⟨⟨rfl, rfl⟩, rfl, rfl⟩
  · rw [hAnswer]
    exact hDriven.count
  · rw [hAnswer, hRest]
    exact hStopped
  · have hAppend := i.runRecorded_append store ex notify run.1.1 run.1.2 [] run.2.rest
    rw [List.append_nil] at hAppend
    exact hAppend

/-- A command, a sequence that is undefined, an interruption and a cut-off: the last key is left. -/
example :
    let store : Store String := fun text =>
      if text = "C-x" then .nested else if text = "C-x C-s" then .command "save" else .unbound
    let script : Script := [.key (.char 'x'), .key (.char 's'), .key (.char 'q'),
      .failure (.interrupted "C-g"), .key (.char 'x'), .failure .closed, .key (.char 'z')]
    let ex : Executor Unit String := ⟨fun _ s => s, fun _ s => (s, none)⟩
    ran (runRecorded {} store ex (fun _ s => s) ((), []) script) =
      (((), [.setLast "save", .execute "save" none, .notify ⟨"C-q is undefined", .warning, 5⟩,
        .notify ⟨"Quit (C-g)", .info, 5⟩]), .ok 1, [.key (.char 'z')]) := by rfl

end Interpreter

end Keychord
