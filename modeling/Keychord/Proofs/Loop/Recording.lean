import Keychord.Loop

/-!
# A loop that keeps a record

`recording` has an executor write down every call that it gets, and what came of it; notifications
are written into the same record.  Nothing else changes: `run_map` says that a loop does not see
what its handler keeps in its state, so the record can be left out again, and what it held before is
still in front of what comes.
-/

namespace Keychord

variable {σ τ α : Type}

/-! ## Handlers alike -/

/-- Handlers that do the same but for what they keep, one state being the image of the other. -/
structure Handler.Maps (f : σ → τ) (h : Handler σ α) (h' : Handler τ α) : Prop where
  resolved : ∀ r s, h'.resolved r (f s) = ((f (h.resolved r s).1), (h.resolved r s).2)
  notify : ∀ n s, h'.notify n (f s) = f (h.notify n s)
  consequence : ∀ e, h'.consequence e = h.consequence e

theorem Handler.Maps.counting {f : σ → τ} {h : Handler σ α} {h' : Handler τ α}
    (hMaps : h.Maps f h') : h.counting.Maps (Prod.map f id) h'.counting where
  resolved r s := by
    simp only [Handler.counting, Prod.map_fst, hMaps.resolved]
    rcases h.resolved r s.1 with ⟨inner, e | -⟩ <;> rfl
  notify n s := by simp only [Handler.counting, Prod.map, hMaps.notify, id]
  consequence := hMaps.consequence

/-- A count goes on in the same way wherever it has begun. -/
theorem Handler.counting_add (h : Handler σ α) (n : Nat) :
    h.counting.Maps (Prod.map id (· + n)) h.counting where
  resolved r s := by
    simp only [Handler.counting, Prod.map, id]
    rcases h.resolved r s.1 with ⟨inner, e | -⟩
    · rfl
    · simp only [Nat.add_right_comm]
  notify _ _ := rfl
  consequence _ := rfl

namespace Loop

/-- The move of a loop with a handler that is alike. -/
def Move.map (f : σ → τ) : Move σ → Move τ
  | .goOn s => .goOn ⟨s.episode, f s.inner⟩
  | .stop answer inner => .stop answer (f inner)

theorem react_map {f : σ → τ} {h : Handler σ α} {h' : Handler τ α} (hMaps : h.Maps f h')
    (e : Episode) (inner : σ) (outcome : Outcome α) :
    react h' ⟨e, f inner⟩ outcome = (react h ⟨e, inner⟩ outcome).map f := by
  cases outcome with
  | ok r =>
    simp only [react, hMaps.resolved]
    rcases h.resolved r inner with ⟨inner', e | -⟩ <;> rfl
  | error e =>
    simp only [react, hMaps.consequence]
    cases h.consequence e with
    | shown => simp only [hMaps.notify, Move.map]
    | closed => rfl
    | failed => rfl

/-- Loops with handlers that are alike give the same answer, leave the same rest and report the
same. -/
theorem run_map {f : σ → τ} {h : Handler σ α} {h' : Handler τ α} (hMaps : h.Maps f h')
    (store : Store α) (e : Episode) (inner : σ) (script : Script) :
    run h' store ⟨e, f inner⟩ script =
      (f (run h store ⟨e, inner⟩ script).1, (run h store ⟨e, inner⟩ script).2) := by
  induction script generalizing e inner with
  | nil => rfl
  | cons item script ih =>
    cases hOutcome : (e.take store item).outcome with
    | none =>
      simp only [run, step, hOutcome]
      rw [ih]
    | some outcome =>
      simp only [run, step, hOutcome, react_map hMaps]
      cases react h ⟨(e.take store item).episode, inner⟩ outcome with
      | stop answer inner' => rfl
      | goOn s =>
        simp only [Move.map]
        rw [ih]

/-! ## The record -/

/-- What a loop does to the outside. -/
inductive Action (α : Type) where
  | setLast (command : α)
  /-- A command was run; the answer is why it failed, if it did. -/
  | execute (command : α) (failure : Option String)
  | notify (n : Notification)
  deriving DecidableEq

/-- A run of a command that did not fail. -/
def Action.succeeded : Action α → Bool
  | .execute _ none => true
  | _ => false

/-- The same display with a record of what it shows. -/
def recording (notify : Notification → σ → σ) (n : Notification) (s : σ × List (Action α)) :
    σ × List (Action α) :=
  (notify n s.1, s.2 ++ [.notify n])

end Loop

/-- The same executor with a record of its calls. -/
def Executor.recording (ex : Executor σ α) : Executor (σ × List (Loop.Action α)) α where
  setLast c s := (ex.setLast c s.1, s.2 ++ [.setLast c])
  execute c s :=
    (((ex.execute c s.1).1, s.2 ++ [.execute c (ex.execute c s.1).2]), (ex.execute c s.1).2)

theorem Executor.recording_call (ex : Executor σ α) (c : α) (s : σ × List (Loop.Action α)) :
    ex.recording.call c s =
      (((ex.call c s.1).1,
        s.2 ++ [.setLast c, .execute c (ex.execute c (ex.setLast c s.1)).2]),
        (ex.call c s.1).2) := by
  simp only [call, recording, List.append_assoc, List.singleton_append]
  rcases ex.execute c (ex.setLast c s.1) with ⟨s', - | reason⟩ <;> rfl

namespace Interpreter

/-- A loop that runs commands, with a record of what it does. -/
def runRecorded (i : Interpreter) (store : Store α) (ex : Executor σ α)
    (notify : Notification → σ → σ) (s : σ × List (Loop.Action α)) (script : Script) :
    (σ × List (Loop.Action α)) × Read Error Nat :=
  i.runUntilClosed store ex.recording (Loop.recording notify) s script

variable (i : Interpreter) (store : Store α) (ex : Executor σ α) (notify : Notification → σ → σ)

theorem runUntilClosed_map {f : σ → τ} {ex' : Executor τ α} {notify' : Notification → τ → τ}
    (hMaps : (ex.handler notify).Maps f (ex'.handler notify')) (inner : σ) (script : Script) :
    i.runUntilClosed store ex' notify' (f inner) script =
      (f (i.runUntilClosed store ex notify inner script).1,
        (i.runUntilClosed store ex notify inner script).2) := by
  have hRun := Loop.run_map hMaps.counting store { config := i.config } (inner, 0) script
  simp only [Prod.map, id] at hRun
  simp only [runUntilClosed, loopState, hRun]

/-- A loop does the same without its record. -/
theorem runRecorded_forget (s : σ) (log : List (Loop.Action α)) (script : Script) :
    i.runUntilClosed store ex notify s script =
      ((i.runRecorded store ex notify (s, log) script).1.1,
        (i.runRecorded store ex notify (s, log) script).2) := by
  refine i.runUntilClosed_map store _ _ (f := Prod.fst)
    ⟨fun r s => ?_, fun n s => rfl, fun e => rfl⟩ (s, log) script
  simp only [Executor.handler, Executor.recording_call]

/-- What is in the record already stays in front and makes no difference. -/
theorem runRecorded_append (s : σ) (log log' : List (Loop.Action α)) (script : Script) :
    i.runRecorded store ex notify (s, log ++ log') script =
      (((i.runRecorded store ex notify (s, log') script).1.1,
        log ++ (i.runRecorded store ex notify (s, log') script).1.2),
        (i.runRecorded store ex notify (s, log') script).2) := by
  refine i.runUntilClosed_map store _ _ (f := fun s => (s.1, log ++ s.2))
    ⟨fun r s => ?_, fun n s => ?_, fun e => rfl⟩ (s, log') script
  · simp only [Executor.handler, Executor.recording_call, List.append_assoc]
  · simp only [Executor.handler, Loop.recording, List.append_assoc]

end Interpreter

end Keychord
