import Keychord.Proofs.Loop.Driven

/-!
# Errors that stop a loop

A round of a loop is one episode with its command, and then the loop over the rest, unless the error
of the episode stops it (`ran_round`).  So a loop can be followed from episode to episode, also with
commands whose runs may fail with any error at all: `Interpreter.course` tells what the episodes
came to, one after the other, and how the loop ended.  Behind an error there is another episode just
if the error is shown (`ne_nil_iff_shown`).  The errors that are shown are those that are not fatal,
and with them the interruptions, which are fatal.
-/

namespace Keychord

variable {σ α : Type}

/-- Runs a command; a run may fail with any error. -/
abbrev Runner (σ α : Type) := α → σ → σ × Except Error Unit

/-- What a loop has been through: the outcomes of its episodes, with those of their commands, its
state in the end, its answer and the rest of its script. -/
structure Loop.Course (σ α : Type) where
  outcomes : List (Outcome α)
  inner : σ
  answer : Except Error Nat
  rest : Script

namespace Loop.Course

/-- One episode before the others. -/
def after (c : Course σ α) (outcome : Outcome α) : Course σ α :=
  { c with outcomes := outcome :: c.outcomes }

/-- One command before the others. -/
def succ (c : Course σ α) : Course σ α := { c with answer := c.answer.map (· + 1) }

/-- What a loop came to in the end. -/
def ran (c : Course σ α) : σ × Except Error Nat × Script := (c.inner, c.answer, c.rest)

end Loop.Course

/-! ## Which errors are shown -/

theorem Error.isFatal_eq_false_iff (e : Error) :
    e.isFatal = false ↔ ∃ sequence, e = .unresolved sequence := by
  cases e <;> simp [isFatal]

theorem Executor.consequence_eq_shown_iff (e : Error) :
    consequence e = .shown ↔
      (∃ sequence, e = .unresolved sequence) ∨ ∃ key, e = .input (.interrupted key) := by
  cases e with
  | input cause => cases cause <;> simp [consequence]
  | unresolved sequence => simp [consequence]
  | keymap cause => simp [consequence]
  | config cause => simp [consequence]
  | execution reason => simp [consequence]

theorem Executor.consequence_of_call {ex : Executor σ α} {command : α} {s s' : σ} {e : Error}
    (h : ex.call command s = (s', .error e)) : consequence e = .failed := by
  rcases hRun : ex.execute command (ex.setLast command s) with ⟨s₁, - | reason⟩
  · simp [call, hRun] at h
  · simp only [call, hRun, Prod.mk.injEq, Except.error.injEq] at h
    rw [← h.2]
    rfl

namespace Interpreter

variable (i : Interpreter) (store : Store α) (run : Runner σ α) (notify : Notification → σ → σ)

/-! ## One episode -/

/-- Reads one episode and runs its command: what came of both, the state and the rest. -/
def episode (s : σ) (script : Script) : Outcome α × σ × Script :=
  match (i.lookup store script).seen with
  | (.error e, rest) => (.error e, s, rest)
  | (.ok r, rest) =>
    match run r.command s with
    | (s', .ok ()) => (.ok r, s', rest)
    | (s', .error e) => (.error e, s', rest)

section episode

variable {i store run} {s s' : σ} {script rest : Script}

theorem lookup_of_episode_ok {r : Resolved α}
    (h : i.episode store run s script = (.ok r, s', rest)) :
    (i.lookup store script).seen = (.ok r, rest) ∧ run r.command s = (s', .ok ()) := by
  rcases hRead : (i.lookup store script).seen with ⟨e | r', rest'⟩
  · simp [episode, hRead] at h
  · rcases hRun : run r'.command s with ⟨s₁, e | ⟨⟩⟩
    · simp [episode, hRead, hRun] at h
    · simp only [episode, hRead, hRun, Prod.mk.injEq, Except.ok.injEq] at h
      obtain ⟨rfl, rfl, rfl⟩ := h
      exact ⟨rfl, hRun⟩

theorem lookup_of_episode_error {e : Error}
    (h : i.episode store run s script = (.error e, s', rest)) :
    ((i.lookup store script).seen = (.error e, rest) ∧ s' = s) ∨
      ∃ r, (i.lookup store script).seen = (.ok r, rest) ∧ run r.command s = (s', .error e) := by
  rcases hRead : (i.lookup store script).seen with ⟨e' | r, rest'⟩
  · simp only [episode, hRead, Prod.mk.injEq, Except.error.injEq] at h
    obtain ⟨rfl, rfl, rfl⟩ := h
    exact Or.inl ⟨rfl, rfl⟩
  · rcases hRun : run r.command s with ⟨s₁, e' | ⟨⟩⟩
    · simp only [episode, hRead, hRun, Prod.mk.injEq, Except.error.injEq] at h
      obtain ⟨rfl, rfl, rfl⟩ := h
      exact Or.inr ⟨r, rfl, hRun⟩
    · simp [episode, hRead, hRun] at h

theorem rest_of_episode {outcome : Outcome α}
    (h : i.episode store run s script = (outcome, s', rest)) :
    (i.lookup store script).rest = rest := by
  cases outcome with
  | ok r => exact (Prod.mk.inj (lookup_of_episode_ok h).1).2
  | error e =>
    rcases lookup_of_episode_error h with ⟨hRead, -⟩ | ⟨r, hRead, -⟩
    · exact (Prod.mk.inj hRead).2
    · exact (Prod.mk.inj hRead).2

/-- An episode leaves less than there was, unless the source has closed. -/
theorem rest_lt_of_episode {outcome : Outcome α}
    (h : i.episode store run s script = (outcome, s', rest))
    (hOutcome : outcome ≠ .error (.input .closed)) : rest.length < script.length := by
  have hLength := Episode.finish_rest_length { config := i.config } store script
  have hRest := rest_of_episode h
  cases script with
  | nil => exact absurd (Prod.mk.inj h).1.symm hOutcome
  | cons item script =>
    rw [lookup] at hRest
    rw [hRest, List.length_cons] at hLength
    rw [List.length_cons]
    omega

end episode

theorem episode_call_eq_iff {ex : Executor σ α} {s s' : σ} {script rest : Script}
    {outcome : Outcome α} :
    i.episode store ex.call s script = (outcome, s', rest) ↔
      ∃ notes, i.runEpisode store ex s script = (s', ⟨outcome, rest, notes⟩) := by
  rcases hRead : i.lookup store script with ⟨e | r, left, notes⟩
  · simp only [episode, runEpisode, Read.seen, hRead, Prod.mk.injEq, Read.mk.injEq]
    grind
  · rcases hCall : ex.call r.command s with ⟨s₁, e | ⟨⟩⟩
    all_goals
      simp only [episode, runEpisode, Read.seen, hRead, hCall, Prod.mk.injEq, Read.mk.injEq]
      grind

/-- One round of a loop is one episode with its command.  The loop begins again behind a command,
which it counts, and behind an error that is shown. -/
theorem ran_round (ex : Executor σ α) (s : σ) (script : Script) :
    ran (i.runUntilClosed store ex notify s script) =
      match i.runEpisode store ex s script with
      | (s', ⟨.ok _, rest, _⟩) =>
        let (inner, answer, left) := ran (i.runUntilClosed store ex notify s' rest)
        (inner, answer.map (· + 1), left)
      | (s', ⟨.error e, rest, _⟩) =>
        match Executor.consequence e with
        | .shown => ran (i.runUntilClosed store ex notify (notify (.ofError e) s') rest)
        | .closed => (s', .ok 0, rest)
        | .failed => (s', .error e, rest) := by
  rcases hRun : i.runEpisode store ex s script with ⟨s', outcome, rest, notes⟩
  have hEpisode : i.episode store ex.call s script = (outcome, s', rest) :=
    (i.episode_call_eq_iff store).mpr ⟨notes, hRun⟩
  cases outcome with
  | ok r =>
    obtain ⟨hRead, hCall⟩ := lookup_of_episode_ok hEpisode
    exact ran_of_executed hRead hCall rfl
  | error e =>
    dsimp only
    rcases lookup_of_episode_error hEpisode with ⟨hRead, rfl⟩ | ⟨r, hRead, hCall⟩
    · cases hConsequence : Executor.consequence e with
      | shown =>
        exact ran_of_shown hRead ((Executor.consequence_eq_shown_iff e).mp hConsequence) rfl
      | closed =>
        have hReact : Loop.react (ex.handler notify).counting ⟨{ config := i.config }, (s', 0)⟩
            (.error e : Outcome α) = .stop (.ok ()) (s', 0) := by
          simp only [Loop.react, Handler.counting, Executor.handler, hConsequence]
        exact ran_of_stop hRead hReact
      | failed =>
        have hReact : Loop.react (ex.handler notify).counting ⟨{ config := i.config }, (s', 0)⟩
            (.error e : Outcome α) = .stop (.error e) (s', 0) := by
          simp only [Loop.react, Handler.counting, Executor.handler, hConsequence]
        exact ran_of_stop hRead hReact
    · rw [Executor.consequence_of_call hCall]
      exact ran_of_failed hRead hCall

/-! ## One episode after the other -/

/-- The course of a loop: it goes on behind a command and behind an error that is shown. -/
def course (s : σ) (script : Script) : Loop.Course σ α :=
  match _ : i.episode store run s script with
  | (.ok r, s', rest) => ((course s' rest).after (.ok r)).succ
  | (.error e, s', rest) =>
    match _ : Executor.consequence e with
    | .shown => (course (notify (.ofError e) s') rest).after (.error e)
    | .closed => ⟨[.error e], s', .ok 0, rest⟩
    | .failed => ⟨[.error e], s', .error e, rest⟩
termination_by script.length
decreasing_by
  · exact rest_lt_of_episode ‹_› (by simp)
  · refine rest_lt_of_episode ‹_› ?_
    rintro ⟨⟩
    contradiction

/-- The course of a loop ends with an error that is not shown, and all errors before it are. -/
theorem exists_outcomes_course (s : σ) (script : Script) :
    ∃ earlier last, (i.course store run notify s script).outcomes = earlier ++ [.error last] ∧
      Executor.consequence last ≠ .shown ∧
      ∀ e, .error e ∈ earlier → Executor.consequence e = .shown := by
  fun_induction course i store run notify s script with
  | case1 s script r s' rest hEpisode ih =>
    obtain ⟨earlier, last, hOutcomes, hLast, hEarlier⟩ := ih
    refine ⟨.ok r :: earlier, last, ?_, hLast, fun e he => ?_⟩
    · rw [List.cons_append, ← hOutcomes]
      rfl
    · exact hEarlier e ((List.mem_cons.mp he).resolve_left (by simp))
  | case2 s script e s' rest hEpisode hShown ih =>
    obtain ⟨earlier, last, hOutcomes, hLast, hEarlier⟩ := ih
    refine ⟨.error e :: earlier, last, ?_, hLast, fun e' he' => ?_⟩
    · rw [List.cons_append, ← hOutcomes]
      rfl
    · rcases List.mem_cons.mp he' with hSame | hMem
      · obtain rfl := Except.error.inj hSame
        exact hShown
      · exact hEarlier e' hMem
  | case3 s script e s' rest hEpisode hClosed =>
    exact ⟨[], e, rfl, by simp [hClosed], by simp⟩
  | case4 s script e s' rest hEpisode hFailed =>
    exact ⟨[], e, rfl, by simp [hFailed], by simp⟩

/-- Behind an error there is another episode just if the error is shown. -/
theorem ne_nil_iff_shown {s : σ} {script : Script} {before after : List (Outcome α)} {e : Error}
    (h : (i.course store run notify s script).outcomes = before ++ .error e :: after) :
    after ≠ [] ↔ Executor.consequence e = .shown := by
  obtain ⟨earlier, last, hOutcomes, hLast, hEarlier⟩ :=
    i.exists_outcomes_course store run notify s script
  rw [h] at hOutcomes
  rcases List.eq_nil_or_concat after with rfl | ⟨later, final, hConcat⟩
  · obtain ⟨-, hSame⟩ := List.append_inj' hOutcomes rfl
    obtain rfl := Except.error.inj (List.cons.inj hSame).1
    exact iff_of_false (fun hNe => hNe rfl) hLast
  · rw [List.concat_eq_append] at hConcat
    subst hConcat
    have hSplit : (before ++ .error e :: later) ++ [final] = earlier ++ [.error last] := by
      rw [← hOutcomes, List.append_assoc, List.cons_append]
    obtain ⟨rfl, -⟩ := List.append_inj' hSplit rfl
    exact iff_of_true (by simp) (hEarlier e (by simp))

theorem ran_runUntilClosed (ex : Executor σ α) (s : σ) (script : Script) :
    ran (i.runUntilClosed store ex notify s script) =
      (i.course store ex.call notify s script).ran := by
  fun_induction course i store ex.call notify s script with
  | case1 s script r s' rest hEpisode ih =>
    obtain ⟨notes, hRun⟩ := (i.episode_call_eq_iff store).mp hEpisode
    rw [ran_round, hRun]
    dsimp only
    rw [ih]
    rfl
  | case2 s script e s' rest hEpisode hShown ih =>
    obtain ⟨notes, hRun⟩ := (i.episode_call_eq_iff store).mp hEpisode
    rw [ran_round, hRun]
    dsimp only
    rw [hShown]
    exact ih
  | case3 s script e s' rest hEpisode hClosed =>
    obtain ⟨notes, hRun⟩ := (i.episode_call_eq_iff store).mp hEpisode
    rw [ran_round, hRun]
    dsimp only
    rw [hClosed]
    rfl
  | case4 s script e s' rest hEpisode hFailed =>
    obtain ⟨notes, hRun⟩ := (i.episode_call_eq_iff store).mp hEpisode
    rw [ran_round, hRun]
    dsimp only
    rw [hFailed]
    rfl

/-- A loop takes its course.  Whatever ends an episode of it with an error, be it the source, the
store or a command, the loop goes on to another episode exactly if the error is not fatal or is an
interruption. -/
theorem goesOn_iff_not_isFatal_or_interrupted (s : σ) (script : Script) :
    let course := i.course store run notify s script
    (∀ ex : Executor σ α, ex.call = run →
      ran (i.runUntilClosed store ex notify s script) = course.ran) ∧
    ∀ before after e, course.outcomes = before ++ .error e :: after →
      (after ≠ [] ↔ e.isFatal = false ∨ ∃ key, e = .input (.interrupted key)) := by
  intro course
  refine ⟨?_, fun before after e hOutcomes => ?_⟩
  · rintro ex rfl
    exact i.ran_runUntilClosed store notify ex s script
  · rw [i.ne_nil_iff_shown store run notify hOutcomes, Executor.consequence_eq_shown_iff,
      Error.isFatal_eq_false_iff]

/-- An interruption is fatal, and there is another episode behind it: the errors that a loop goes on
behind are not those that are not fatal. -/
theorem interrupted_isFatal_and_goesOn :
    let store : Store String := fun _ => .unbound
    let ex : Executor Unit String := ⟨fun _ s => s, fun _ s => (s, none)⟩
    let course := ({} : Interpreter).course store ex.call (fun _ s => s) ()
      [.failure (.interrupted "C-g")]
    let e : Error := .input (.interrupted "C-g")
    course.outcomes = [] ++ .error e :: [.error (.input .closed)] ∧ e.isFatal = true ∧
    ¬ ∀ before after e, course.outcomes = before ++ .error e :: after →
      (after ≠ [] ↔ e.isFatal = false) := by
  intro store ex course e
  have hOutcomes : course.outcomes = [] ++ .error e :: [.error (.input .closed)] := by
    simp only [course]
    cbv
  refine ⟨hOutcomes, rfl, fun hClaim => ?_⟩
  have hGoesOn := (hClaim [] _ e hOutcomes).mp (by simp)
  exact absurd hGoesOn (by decide)

end Interpreter

end Keychord
