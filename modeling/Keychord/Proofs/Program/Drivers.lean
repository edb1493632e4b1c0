import Keychord.Program.Demo
import Keychord.Proofs.Keymap.History
import Keychord.Proofs.Loop.Closing

/-!
# The two loops of the demonstration

The loop that describes bindings and the loop that shows commands tell errors apart by tests of
their own.  Both are steady, so on events that close they see the same episodes and stop at the same
event.  They show the same notifications, and where the one describes a binding the other shows its
command; whether that is a repetition is up to the last command before, whatever came in between.
-/

namespace Keychord.Program

/-! ## Lines -/

/-- The last command of some episodes. -/
def lastCommand? (episodes : List (Outcome Command)) : Option Command :=
  (episodes.filterMap Outcome.command?).getLast?

/-- What is shown of an episode where bindings are described. -/
def describedLine : Outcome Command → String
  | .ok r => r.sequence ++ " runs the command " ++ r.command.name
  | .error e => (Notification.ofError e).message

/-- What is shown of an episode where commands are run, behind the episodes before it. -/
def executedLine (earlier : List (Outcome Command)) : Outcome Command → String
  | .ok r =>
    if lastCommand? earlier = some r.command then r.command.name ++ " (repeated)"
    else r.command.name
  | .error e => (Notification.ofError e).message

/-- What is shown of one episode after the other where commands are run. -/
def executedLines (earlier : List (Outcome Command)) : List (Outcome Command) → List String
  | [] => []
  | outcome :: later => executedLine earlier outcome :: executedLines (earlier ++ [outcome]) later

/-- Lines as they are written in raw mode. -/
def rawText (lines : List String) : String := String.join (lines.map (· ++ "\r\n"))

@[simp]
theorem rawText_nil : rawText [] = "" := rfl

@[simp]
theorem rawText_cons (text : String) (lines : List String) :
    rawText (text :: lines) = text ++ ("\r\n" ++ rawText lines) := by
  rw [rawText, List.map_cons, String.join_cons, String.append_assoc]
  rfl

@[simp]
theorem Screen.line_output (text : String) (s : Screen) :
    (s.line text).output = s.output ++ (text ++ "\r\n") := by
  rw [line, String.append_assoc]

theorem lastCommand?_concat (earlier : List (Outcome Command)) (outcome : Outcome Command) :
    lastCommand? (earlier ++ [outcome]) = (Outcome.command? outcome).or (lastCommand? earlier) := by
  cases outcome <;> simp [lastCommand?, Outcome.command?]

/-! ## The loop that describes bindings -/

/-- The two loops tell errors apart in the same way. -/
theorem describingConsequence_eq : describingConsequence = Executor.consequence := by
  funext e
  cases e with
  | input cause => cases cause <;> rfl
  | unresolved text => rfl
  | keymap cause => rfl
  | config cause => rfl
  | execution reason => rfl

theorem describing_steady : describing.Steady :=
  Handler.steady_of_consequence (fun _ _ => ⟨_, rfl⟩) describingConsequence_eq

theorem describing_handle (s : Screen) (outcome : Outcome Command) :
    describing.handle s outcome = s.line (describedLine outcome) := by
  cases outcome <;> rfl

theorem foldl_describing (episodes : List (Outcome Command)) (s : Screen) :
    (episodes.foldl describing.handle s).output =
      s.output ++ rawText (episodes.map describedLine) := by
  induction episodes generalizing s with
  | nil => rw [List.foldl_nil, List.map_nil, rawText_nil, String.append_empty]
  | cons outcome episodes ih =>
    rw [List.foldl_cons, ih, describing_handle, Screen.line_output, List.map_cons, rawText_cons]
    simp only [String.append_assoc]

/-! ## The loop that shows commands -/

theorem executing_steady : executing.Steady :=
  Handler.steady_of_consequence (fun _ _ => ⟨_, rfl⟩) rfl

/-- A screen that knows the last command of the episodes before shows the line of the next one, and
knows the last command then. -/
theorem executing_handle {s : Screen} {earlier : List (Outcome Command)}
    (hLast : s.last = lastCommand? earlier) (outcome : Outcome Command) :
    (executing.handle s outcome).last = lastCommand? (earlier ++ [outcome]) ∧
    (executing.handle s outcome).output = s.output ++ (executedLine earlier outcome ++ "\r\n") := by
  rw [lastCommand?_concat]
  cases outcome with
  | ok r =>
    refine ⟨rfl, ?_⟩
    rw [executedLine, ← hLast, ← Screen.line_output]
    rfl
  | error e => exact ⟨hLast, Screen.line_output _ s⟩

theorem foldl_executing (episodes : List (Outcome Command)) {s : Screen}
    {earlier : List (Outcome Command)} (hLast : s.last = lastCommand? earlier) :
    (episodes.foldl executing.handle s).output =
      s.output ++ rawText (executedLines earlier episodes) := by
  induction episodes generalizing s earlier with
  | nil => rw [List.foldl_nil, executedLines, rawText_nil, String.append_empty]
  | cons outcome episodes ih =>
    obtain ⟨hNext, hOutput⟩ := executing_handle hLast outcome
    rw [List.foldl_cons, ih hNext, hOutput, executedLines, rawText_cons]
    simp only [String.append_assoc]

/-! ## Both loops on the same events -/

section runs

variable (i : Interpreter) (store : Store Command) (output : String) (events : List Terminal.Event)

/-- The loop that describes bindings, run over the events of a terminal. -/
def described : Screen × Read Error Unit :=
  Loop.run describing store (i.loopState { output }) (events.map Terminal.Event.item)

/-- The loop that shows commands, run over the events of a terminal. -/
def executed : Screen × Read Error Nat :=
  i.runUntilClosed store echo Screen.notify { output } (events.map Terminal.Event.item)

theorem executed_eq :
    let run := Loop.run executing.counting store (i.loopState ({ output }, 0))
      (events.map Terminal.Event.item)
    executed i store output events =
      (run.1.1, ⟨run.2.result.map fun _ => run.1.2, run.2.rest, run.2.notes⟩) := rfl

end runs

theorem passed_item {event : Terminal.Event} (h : event.verdict ≠ .close) : event.item.Passed := by
  rw [Terminal.Event.item]
  cases hVerdict : event.verdict with
  | key key => trivial
  | interrupt key => trivial
  | close => exact absurd hVerdict h
  | ignore => trivial

theorem isNoticed_item (event : Terminal.Event) :
    event.item.isNoticed = decide (event.verdict ≠ .ignore) := by
  rw [Terminal.Event.item]
  cases event.verdict <;> rfl

theorem run_filter_ignored {σ α : Type} (h : Handler σ α) (store : Store α) (s : Loop.State σ)
    {events events' : List Terminal.Event}
    (hEvents : events'.filter (·.verdict ≠ .ignore) = events.filter (·.verdict ≠ .ignore)) :
    (Loop.run h store s (events'.map Terminal.Event.item)).1 =
      (Loop.run h store s (events.map Terminal.Event.item)).1 := by
  have hItems (events : List Terminal.Event) :
      (events.map Terminal.Event.item).filter Item.isNoticed =
        (events.filter (·.verdict ≠ .ignore)).map Terminal.Event.item := by
    rw [List.filter_map]
    exact congrArg _ (List.filter_congr fun event _ => isNoticed_item event)
  rw [← (Loop.run_filter_noticed h store s _).1, hItems, hEvents, ← hItems,
    (Loop.run_filter_noticed h store s _).1]

/-- On events of which one closes the input, the loop that describes bindings and the loop that runs
commands see the same episodes and stop without a failure right behind that event.  For every
episode each of them writes one line: both the same for an undefined sequence or an interruption,
and the description of the binding or the name of the command otherwise, marked as repeated exactly
if the last command before was the same.  Events that are ignored do not change what is written. -/
theorem drivers_agree (i : Interpreter) (store : Store Command) (output : String)
    {before : List Terminal.Event} {closing : Terminal.Event}
    (hOpen : ∀ event ∈ before, event.verdict ≠ .close) (hClosing : closing.verdict = .close)
    (after : List Terminal.Event) :
    let description := described i store output (before ++ closing :: after)
    let execution := executed i store output (before ++ closing :: after)
    (∃ episodes : List (Outcome Command),
      (i.calls store ((before ++ [closing]).map Terminal.Event.item)).map Call.outcome =
        episodes ++ [.error (.input .closed)] ∧
      description.1.output = output ++ rawText (episodes.map describedLine) ∧
      execution.1.output = output ++ rawText (executedLines [] episodes) ∧
      description.2.seen = (.ok (), after.map Terminal.Event.item) ∧
      execution.2.seen =
        (.ok (episodes.filterMap Outcome.command?).length, after.map Terminal.Event.item)) ∧
    ∀ before' : List Terminal.Event,
      before'.filter (·.verdict ≠ .ignore) = before.filter (·.verdict ≠ .ignore) →
      (described i store output (before' ++ closing :: after)).1.output = description.1.output ∧
      (executed i store output (before' ++ closing :: after)).1.output = execution.1.output := by
  intro description execution
  refine ⟨?_, fun before' hSame => ?_⟩
  · have hItem : closing.item = .failure .closed := by rw [Terminal.Event.item, hClosing]
    have hPassed : ∀ item ∈ before.map Terminal.Event.item, item.Passed := by
      intro item hMem
      obtain ⟨event, hEvent, rfl⟩ := List.mem_map.mp hMem
      exact passed_item (hOpen event hEvent)
    have hItems : (before ++ closing :: after).map Terminal.Event.item =
        before.map Terminal.Event.item ++ .failure .closed :: after.map Terminal.Event.item := by
      rw [List.map_append, List.map_cons, hItem]
    obtain ⟨episodes, hEpisodes, hLoops⟩ :=
      i.exists_episodes store hPassed (after.map Terminal.Event.item)
    obtain ⟨hDescribed, hDescribedSeen⟩ := hLoops describing describing_steady { output }
    obtain ⟨hExecuted, hExecutedSeen⟩ :=
      hLoops executing.counting executing_steady.counting ({ output }, 0)
    rw [← hItems] at hDescribed hDescribedSeen hExecuted hExecutedSeen
    rw [Handler.foldl_counting executing_steady, Nat.zero_add] at hExecuted
    obtain ⟨hResult, hRest⟩ := Prod.mk.inj hExecutedSeen
    refine ⟨episodes, ?_, ?_, ?_, hDescribedSeen, ?_⟩
    · rw [List.map_append, List.map_singleton, hItem]
      exact hEpisodes
    · exact (congrArg Screen.output hDescribed).trans (foldl_describing episodes { output })
    · simp only [execution, executed_eq, hExecuted]
      exact foldl_executing episodes rfl
    · simp only [execution, executed_eq, Read.seen, hExecuted, hResult, hRest]
      rfl
  · have hEvents : (before' ++ closing :: after).filter (·.verdict ≠ .ignore) =
        (before ++ closing :: after).filter (·.verdict ≠ .ignore) := by
      rw [List.filter_append, List.filter_append, hSame]
    refine ⟨congrArg Screen.output (run_filter_ignored describing store _ hEvents), ?_⟩
    simp only [execution, executed_eq, run_filter_ignored executing.counting store _ hEvents]

/-- An interruption in mid-sequence does not make the loop forget the last command, and an ignored
event before the interruption is not seen. -/
theorem drivers_agree_on_save :
    let store : Store Command := (Keymap.History.run bindings).keymap.resolve
    let x : Terminal.Event := .key { code := .char 'x' }
    let s : Terminal.Event := .key { code := .char 's' }
    let quit : Terminal.Event := .key { code := .char 'g', modifiers := { control := true } }
    let closing : Terminal.Event := .key { code := .escape }
    let before := [x, s, x, .resize 80 24, quit, x, s]
    let before' := [x, s, x, quit, x, s]
    (∀ event ∈ before, event.verdict ≠ .close) ∧ closing.verdict = .close ∧
    (described {} store "" (before ++ [closing, x])).1.output =
      "C-x C-s runs the command save-buffer\r\n" ++ "Quit (C-g)\r\n" ++
        "C-x C-s runs the command save-buffer\r\n" ∧
    (executed {} store "" (before ++ [closing, x])).1.output =
      "save-buffer\r\n" ++ "Quit (C-g)\r\n" ++ "save-buffer (repeated)\r\n" ∧
    (described {} store "" (before ++ [closing, x])).2.seen = (.ok (), [x.item]) ∧
    (∃ count, (executed {} store "" (before ++ [closing, x])).2.seen = (.ok count, [x.item])) ∧
    (described {} store "" (before' ++ [closing, x])).1.output =
      (described {} store "" (before ++ [closing, x])).1.output ∧
    (executed {} store "" (before' ++ [closing, x])).1.output =
      (executed {} store "" (before ++ [closing, x])).1.output := by
  intro store x s quit closing before before'
  have hOpen : ∀ event ∈ before, event.verdict ≠ .close := by decide
  have hClosing : closing.verdict = .close := by decide
  obtain ⟨⟨episodes, -, -, -, hDescribed, hExecuted⟩, hSame⟩ :=
    drivers_agree {} store "" hOpen hClosing [x]
  obtain ⟨hDescribedSame, hExecutedSame⟩ := hSame before' (by decide)
  exact ⟨hOpen, hClosing, by decide +kernel, by decide +kernel, hDescribed, ⟨_, hExecuted⟩,
    hDescribedSame, hExecutedSame⟩

end Keychord.Program
