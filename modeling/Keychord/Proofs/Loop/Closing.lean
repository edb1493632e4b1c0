import Keychord.Proofs.Loop.Driven

/-!
# Loops over an input that closes

A loop is steady if no command stops it, and neither an undefined sequence nor an interruption.  On
an input that closes, with no failure before, a steady loop handles one episode after the other and
stops where the input has closed (`exists_episodes`); which episodes these are is up to the input
and not to the loop.  Events that are passed over make no difference to any loop
(`run_filter_noticed`).
-/

namespace Keychord

variable {σ α : Type}

/-! ## Steady loops -/

/-- What an episode can come to without stopping a steady loop. -/
inductive Outcome.Passed : Outcome α → Prop
  | command (r : Resolved α) : Passed (.ok r)
  | undefined (text : String) : Passed (.error (.unresolved text))
  | interrupted (key : String) : Passed (.error (.input (.interrupted key)))

theorem Item.Ends.passed {item : Item} {outcome : Outcome α} (h : item.Ends outcome)
    (hItem : item.Passed) : Outcome.Passed outcome := by
  cases h with
  | failure cause =>
    cases cause with
    | closed => exact hItem.elim
    | terminal reason => exact hItem.elim
    | interrupted key => exact .interrupted key
  | command key r => exact .command r
  | undefined key text => exact .undefined text

/-- A loop that no command stops, and that goes on behind undefined sequences and interruptions. -/
structure Handler.Steady (h : Handler σ α) : Prop where
  resolved : ∀ r s, ∃ s', h.resolved r s = (s', .ok ())
  undefined : ∀ text, h.consequence (.unresolved text) = .shown
  interrupted : ∀ key, h.consequence (.input (.interrupted key)) = .shown

/-- A loop that no command stops is steady if it tells errors apart as an executor does. -/
theorem Handler.steady_of_consequence {h : Handler σ α}
    (hResolved : ∀ r s, ∃ s', h.resolved r s = (s', .ok ()))
    (hConsequence : h.consequence = Executor.consequence) : h.Steady where
  resolved := hResolved
  undefined text := congrFun hConsequence (.unresolved text)
  interrupted key := congrFun hConsequence (.input (.interrupted key))

/-- What a steady loop makes of its state when an episode has ended. -/
def Handler.handle (h : Handler σ α) (s : σ) : Outcome α → σ
  | .ok r => (h.resolved r s).1
  | .error e => h.notify (.ofError e) s

theorem Loop.react_of_passed {h : Handler σ α} (hSteady : h.Steady) {outcome : Outcome α}
    (hOutcome : Outcome.Passed outcome) (s : State σ) :
    react h s outcome = .goOn { s with inner := h.handle s.inner outcome } := by
  cases hOutcome with
  | command r =>
    obtain ⟨inner, hCall⟩ := hSteady.resolved r s.inner
    simp only [react, Handler.handle, hCall]
  | undefined text => simp only [react, hSteady.undefined, Handler.handle]
  | interrupted key => simp only [react, hSteady.interrupted, Handler.handle]

/-- The command that an episode came to. -/
def Outcome.command? : Outcome α → Option α
  | .ok r => some r.command
  | .error _ => none

theorem Handler.counting_handle {h : Handler σ α} (hSteady : h.Steady) (s : σ) (count : Nat)
    (outcome : Outcome α) :
    h.counting.handle (s, count) outcome =
      (h.handle s outcome, count + (Outcome.command? outcome).toList.length) := by
  cases outcome with
  | ok r =>
    obtain ⟨inner, hCall⟩ := hSteady.resolved r s
    simp only [handle, counting, hCall]
    rfl
  | error e => rfl

theorem Handler.Steady.counting {h : Handler σ α} (hSteady : h.Steady) : h.counting.Steady where
  resolved r s := by
    obtain ⟨inner, hCall⟩ := hSteady.resolved r s.1
    exact ⟨(inner, s.2 + 1), by simp only [Handler.counting, hCall]⟩
  undefined := hSteady.undefined
  interrupted := hSteady.interrupted

theorem Handler.foldl_counting {h : Handler σ α} (hSteady : h.Steady)
    (episodes : List (Outcome α)) (s : σ) (count : Nat) :
    episodes.foldl h.counting.handle (s, count) =
      (episodes.foldl h.handle s, count + (episodes.filterMap Outcome.command?).length) := by
  induction episodes generalizing s count with
  | nil => rfl
  | cons outcome episodes ih =>
    have hLength : ((outcome :: episodes).filterMap Outcome.command?).length =
        (Outcome.command? outcome).toList.length +
          (episodes.filterMap Outcome.command?).length := by
      cases outcome with
      | ok r => exact Nat.add_comm _ 1
      | error e => exact (Nat.zero_add _).symm
    rw [List.foldl_cons, counting_handle hSteady, ih, List.foldl_cons, hLength, Nat.add_assoc]

theorem Loop.runAfter_of_closed (h : Handler σ α) (store : Store α) (config : Config) (s : σ)
    {read : Read Error (Resolved α)} (hRead : read.result = .error (.input .closed)) :
    runAfter h store config s read = (s, ⟨.ok (), read.rest, read.notes⟩) := by
  simp only [runAfter, hRead, react, h.closes]

theorem Loop.runAfter_of_passed {h : Handler σ α} (hSteady : h.Steady) (store : Store α)
    (config : Config) (s : σ) {read : Read Error (Resolved α)}
    (hRead : Outcome.Passed read.result) :
    runAfter h store config s read =
      ((run h store ⟨{ config }, h.handle s read.result⟩ read.rest).1,
        (run h store ⟨{ config }, h.handle s read.result⟩ read.rest).2.after read.notes) := by
  simp only [runAfter, react_of_passed hSteady hRead]

/-! ## Lookups on an input that closes -/

/-- An episode reads nothing behind a failure, so it does not see what comes there. -/
theorem Episode.finish_append (e : Episode) (store : Store α) {script : Script}
    (hFailure : ∃ cause, .failure cause ∈ script) (more : Script) :
    (e.finish store (script ++ more)).seen =
      ((e.finish store script).result, (e.finish store script).rest ++ more) := by
  induction script generalizing e with
  | nil =>
    obtain ⟨cause, hMem⟩ := hFailure
    cases hMem
  | cons item script ih =>
    rw [List.cons_append]
    cases hPush : (e.push store item).2 with
    | none =>
      have hOpen := (e.push_ends store item).1 hPush
      have hLater : ∃ cause, .failure cause ∈ script := by
        obtain ⟨cause, hMem⟩ := hFailure
        rcases List.mem_cons.mp hMem with hItem | hMem
        · exact absurd hItem.symm (hOpen cause)
        · exact ⟨cause, hMem⟩
      obtain ⟨hResult, hRest⟩ := Prod.mk.inj (finish_of_push_none script hPush)
      rw [finish_of_push_none (script ++ more) hPush, ih _ hLater, hResult, hRest]
    | some outcome =>
      obtain ⟨hResult, hRest⟩ := Prod.mk.inj (finish_of_push_some script hPush)
      rw [finish_of_push_some (script ++ more) hPush, hResult, hRest]

namespace Interpreter

/-- On an input that closes, a lookup reads up to the closing, or it comes to something that is
passed and leaves an input that closes and is shorter. -/
theorem lookup_closing (i : Interpreter) (store : Store α) {before : Script}
    (hPassed : ∀ item ∈ before, item.Passed) :
    (∀ after, (i.lookup store (before ++ .failure .closed :: after)).seen =
      (.error (.input .closed), after)) ∨
    ∃ outcome before',
      (∀ after, (i.lookup store (before ++ .failure .closed :: after)).seen =
        (outcome, before' ++ .failure .closed :: after)) ∧
      Outcome.Passed outcome ∧ before'.length < before.length ∧
      ∀ item ∈ before', item.Passed := by
  obtain ⟨outcome, rest, hSeen⟩ : ∃ outcome rest,
      (i.lookup store (before ++ [.failure .closed])).seen = (outcome, rest) := ⟨_, _, rfl⟩
  have hClosed : .failure .closed ∈ before ++ [.failure .closed] :=
    List.mem_append_right before List.mem_cons_self
  have hFull (after : Script) : (i.lookup store (before ++ .failure .closed :: after)).seen =
      (outcome, rest ++ after) := by
    obtain ⟨rfl, rfl⟩ := Prod.mk.inj hSeen
    rw [List.append_cons]
    exact Episode.finish_append { config := i.config } store ⟨.closed, hClosed⟩ after
  obtain ⟨heard, hHeard, ⟨hScript, -, -⟩ | ⟨item, hScript, hEnds⟩⟩ := lookup_ends hSeen
  · exact (hHeard (.failure .closed) (hScript ▸ hClosed)).elim
  · rcases List.eq_nil_or_concat rest with rfl | ⟨before', last, hConcat⟩
    · obtain ⟨-, hItem⟩ := List.append_inj' hScript rfl
      obtain rfl := (List.cons.inj hItem).1
      cases hEnds
      exact .inl hFull
    · rw [List.concat_eq_append] at hConcat
      subst hConcat
      have hEnd : before ++ [.failure .closed] = (heard ++ item :: before') ++ [last] := by
        rw [hScript, List.append_assoc, List.cons_append]
      obtain ⟨rfl, hLast⟩ := List.append_inj' hEnd rfl
      obtain rfl := (List.cons.inj hLast).1
      obtain ⟨-, hRest⟩ := List.forall_mem_append.mp hPassed
      obtain ⟨hItem, hBefore'⟩ := List.forall_mem_cons.mp hRest
      refine .inr ⟨outcome, before', fun after => ?_, hEnds.passed hItem, ?_, hBefore'⟩
      · rw [hFull, List.append_assoc, List.singleton_append]
      · rw [List.length_append, List.length_cons]
        omega

/-- On an input that closes, there are some episodes before the closing, and every steady loop
handles these one after the other and stops at the closing. -/
theorem exists_episodes (i : Interpreter) (store : Store α) {before : Script}
    (hPassed : ∀ item ∈ before, item.Passed) (after : Script) :
    ∃ episodes : List (Outcome α),
      (i.calls store (before ++ [.failure .closed])).map Call.outcome =
        episodes ++ [.error (.input .closed)] ∧
      ∀ {σ : Type} (h : Handler σ α), h.Steady → ∀ s,
        let run := Loop.run h store (i.loopState s) (before ++ .failure .closed :: after)
        run.1 = episodes.foldl h.handle s ∧ run.2.seen = (.ok (), after) := by
  induction hLength : before.length using Nat.strongRecOn generalizing before with
  | ind length ih =>
  have hCalls := i.calls_of_idle store (e := { config := i.config }) rfl rfl
    (List.append_ne_nil_of_right_ne_nil before (List.cons_ne_nil (.failure .closed) []))
  rw [hCalls, List.map_cons]
  rcases i.lookup_closing store hPassed with
    hSeen | ⟨outcome, before', hSeen, hOutcome, hShorter, hBefore'⟩
  · obtain ⟨hResult, hRest⟩ := Prod.mk.inj (hSeen [])
    obtain ⟨hFullResult, hFullRest⟩ := Prod.mk.inj (hSeen after)
    rw [lookup] at hResult hRest hFullResult hFullRest
    refine ⟨[], ?_, fun h _ s => ?_⟩
    · rw [hRest, calls, Call.ofRead, hResult]
      rfl
    · rw [loopState, Loop.run_eq_finish, Loop.runAfter_of_closed h store _ s hFullResult]
      exact ⟨rfl, congrArg (Prod.mk _) hFullRest⟩
  · obtain ⟨hResult, hRest⟩ := Prod.mk.inj (hSeen [])
    obtain ⟨hFullResult, hFullRest⟩ := Prod.mk.inj (hSeen after)
    rw [lookup] at hResult hRest hFullResult hFullRest
    obtain ⟨episodes, hEpisodes, hLoops⟩ := ih before'.length (hLength ▸ hShorter) hBefore' rfl
    refine ⟨outcome :: episodes, ?_, fun h hSteady s => ?_⟩
    · rw [hRest, hEpisodes, Call.ofRead, hResult, List.cons_append]
    · rw [loopState, Loop.run_eq_finish,
        Loop.runAfter_of_passed hSteady store _ s (hFullResult ▸ hOutcome), hFullResult, hFullRest]
      exact hLoops h hSteady (h.handle s outcome)

end Interpreter

/-! ## Events that are passed over -/

/-- An item that a reader of keys does not pass over. -/
def Item.isNoticed : Item → Bool
  | .ignored _ => false
  | _ => true

/-- A loop does the same without the events that are passed over. -/
theorem Loop.run_filter_noticed (h : Handler σ α) (store : Store α) (s : State σ)
    (script : Script) :
    (run h store s (script.filter Item.isNoticed)).1 = (run h store s script).1 ∧
    (run h store s (script.filter Item.isNoticed)).2.result = (run h store s script).2.result := by
  induction script generalizing s with
  | nil => exact ⟨rfl, rfl⟩
  | cons item script ih =>
    by_cases hItem : item.isNoticed = true
    · rw [List.filter_cons_of_pos hItem]
      rcases hStep : step h store s item with ⟨s' | ⟨answer, inner⟩, notes⟩
      · simp only [run, hStep, Read.after]
        exact ih s'
      · simp only [run, hStep, and_self]
    · rw [List.filter_cons_of_neg hItem]
      cases item with
      | ignored event => exact ih s
      | key key => exact absurd rfl hItem
      | failure cause => exact absurd rfl hItem

end Keychord
