import Keychord.Proofs.Episode.Actions

/-!
# The log of an episode

Which notes can follow each other in the log of an episode is a matter of three modes: between two
episodes, in one, and in one whose store has been asked about a sequence.  `Log.Path` leads through
the modes note by note, and every action takes such a path (`path_act`).  So the log of a whole run
is a path, from which its balance is read off.
-/

namespace Keychord

namespace Log

/-- The sequence whose look-up a note answers. -/
def Note.answered? : Note → Option String
  | .resolved sequence | .prefixKey sequence | .undefined sequence => some sequence
  | _ => none

/-- Whether an episode ends with a note. -/
def Note.endsEpisode : Note → Bool
  | .resolved _ | .undefined _ | .aborted _ => true
  | _ => false

/-- How far a log has come: it is between two episodes, or in one, or the store has been asked about
a sequence. -/
inductive Mode where
  | idle
  | underway
  | asking (sequence : String)

/-- The number of episodes that have begun and not ended. -/
def Mode.begun : Mode → Nat
  | .idle => 0
  | .underway | .asking _ => 1

theorem Mode.begun_le (m : Mode) : m.begun ≤ 1 := by
  unfold begun
  split <;> omega

/-- One note more. -/
inductive Follows : Mode → Note → Mode → Prop
  | episodeStarted : Follows .idle .episodeStarted .underway
  | lookahead (token : String) : Follows .underway (.lookahead token) .underway
  | extended (sequence : String) : Follows .underway (.extended sequence) (.asking sequence)
  | resolved (sequence : String) : Follows (.asking sequence) (.resolved sequence) .idle
  | prefixKey (sequence : String) : Follows (.asking sequence) (.prefixKey sequence) .underway
  | undefined (sequence : String) : Follows (.asking sequence) (.undefined sequence) .idle
  | aborted (echo : String) : Follows .underway (.aborted echo) .idle

/-- Notes that lead from one mode to another. -/
inductive Path : Mode → List Note → Mode → Prop
  | nil (m : Mode) : Path m [] m
  | cons {m m₁ m' : Mode} {note : Note} {notes : List Note} (head : Follows m note m₁)
      (tail : Path m₁ notes m') : Path m (note :: notes) m'

namespace Path

variable {m m₁ m' : Mode} {note : Note} {notes notes' : List Note} {sequence : String}

theorem single (h : Follows m note m') : Path m [note] m' := .cons h (.nil m')

theorem trans (h : Path m notes m₁) (h' : Path m₁ notes' m') : Path m (notes ++ notes') m' := by
  induction h with
  | nil m => exact h'
  | cons head tail ih => exact .cons head (ih h')

theorem exists_of_append (h : Path m (notes ++ notes') m') :
    ∃ m₁, Path m notes m₁ ∧ Path m₁ notes' m' := by
  induction notes generalizing m with
  | nil => exact ⟨m, .nil m, h⟩
  | cons note notes ih =>
    cases h with
    | cons head tail =>
      obtain ⟨m₁, hBefore, hAfter⟩ := ih tail
      exact ⟨m₁, .cons head hBefore, hAfter⟩

/-- Every episode that has begun has ended or is still open. -/
theorem count_add_begun (h : Path m notes m') :
    m.begun + notes.count .episodeStarted = notes.countP Note.endsEpisode + m'.begun := by
  induction h with
  | nil m => exact Nat.add_comm m.begun 0
  | cons head tail ih =>
    rw [List.count_cons, List.countP_cons]
    cases head <;>
      · simp only [Mode.begun, Note.endsEpisode, beq_self_eq_true, if_true, reduceCtorEq,
          beq_iff_eq, if_false, Bool.false_eq_true] at ih ⊢
        omega

/-- The store has just been asked only where a sequence has just been extended. -/
theorem eq_append_extended (h : Path m notes (.asking sequence)) :
    (notes = [] ∧ m = .asking sequence) ∨
      ∃ earlier, notes = earlier ++ [.extended sequence] := by
  rcases List.eq_nil_or_concat notes with rfl | ⟨earlier, last, hConcat⟩
  · cases h
    exact Or.inl ⟨rfl, rfl⟩
  · rw [List.concat_eq_append] at hConcat
    subst hConcat
    obtain ⟨m₁, -, hLast⟩ := h.exists_of_append
    cases hLast with
    | cons head tail =>
      cases tail
      cases head
      exact Or.inr ⟨earlier, rfl⟩

theorem exists_answer (h : Path m (.extended sequence :: notes) m')
    (hAnswered : ∀ s, m' ≠ .asking s) :
    ∃ answer later, notes = answer :: later ∧ answer.answered? = some sequence := by
  cases h with
  | cons head tail =>
    cases head
    cases tail with
    | nil => exact absurd rfl (hAnswered sequence)
    | cons head tail =>
      refine ⟨_, _, rfl, ?_⟩
      cases head <;> rfl

theorem eq_asking_of_answered (h : Path m (note :: notes) m')
    (hNote : note.answered? = some sequence) : m = .asking sequence := by
  cases h with
  | cons head tail =>
    cases head with
    | resolved s | prefixKey s | undefined s => exact congrArg Mode.asking (Option.some.inj hNote)
    | episodeStarted | lookahead token | extended s | aborted echo => cases hNote

end Path

end Log

open Log

namespace Builder

/-- A builder reports the sequence that it has extended, or the trigger that needs a key. -/
theorem notes_feed (b : Builder) (c : Config) (key : Key) :
    match (b.feed c key).step with
    | .appended _ =>
      (b.feed c key).notes = [.extended (b.feed c key).builder.sequence.description]
    | .needsKey => (b.feed c key).notes = [.lookahead key.token] := by
  obtain ⟨s, pending⟩ := b
  cases pending with
  | some m => rfl
  | none =>
    simp only [feed]
    cases c.reading key.token s.isEmpty with
    | apply m => rfl
    | lookahead m => rfl

end Builder

namespace Episode

variable {α : Type}

/-! ## What is reported -/

/-- The notes that an action makes. -/
def notes (e : Episode) : Action α → List Note
  | .feed store key => (e.feed store key).notes
  | .abort => e.abort.2
  | .setConfig _ => []

/-- The notes of a run, in their order. -/
def log (e : Episode) : List (Action α) → List Note
  | [] => []
  | a :: actions => e.notes a ++ (e.act a).2.log actions

/-- The mode of the log behind all that an episode has reported. -/
def mode (e : Episode) : Mode := if e.isBuilding then .underway else .idle

theorem mode_ne_asking (e : Episode) (sequence : String) : e.mode ≠ .asking sequence := by
  unfold mode
  split
  · exact Mode.noConfusion
  · exact Mode.noConfusion

theorem begun_mode (e : Episode) : e.mode.begun = if e.isBuilding then 1 else 0 := by
  unfold mode
  split <;> rfl

/-! ## Paths -/

theorem path_dispatch (c : Config) (store : Store α) (b : Builder) (keys : Nat) :
    Path (.asking b.sequence.description) (dispatch c store b keys).notes
      (dispatch c store b keys).episode.mode := by
  cases hStore : store b.sequence.description with
  | command command =>
    simp only [dispatch, hStore]
    exact .single (.resolved _)
  | nested =>
    simp only [dispatch, hStore]
    exact .single (.prefixKey _)
  | unbound =>
    simp only [dispatch, hStore]
    exact .single (.undefined _)

theorem path_opening (e : Episode) :
    Path e.mode (if e.isBuilding then [] else [.episodeStarted]) .underway := by
  unfold mode
  split
  · exact .nil _
  · exact .single .episodeStarted

theorem path_feed (e : Episode) (store : Store α) (key : Key) :
    Path e.mode (e.feed store key).notes (e.feed store key).episode.mode := by
  have hNotes := e.builder.notes_feed e.config key
  cases hStep : (e.builder.feed e.config key).step with
  | needsKey =>
    simp only [hStep] at hNotes
    simp only [feed, hStep, hNotes]
    exact e.path_opening.trans (.single (.lookahead _))
  | appended chord =>
    simp only [hStep] at hNotes
    simp only [feed, hStep, hNotes]
    exact (e.path_opening.trans (.single (.extended _))).trans (path_dispatch _ _ _ _)

/-- Every action reports along a path. -/
theorem path_act (e : Episode) (a : Action α) : Path e.mode (e.notes a) (e.act a).2.mode := by
  cases a with
  | feed store key => exact e.path_feed store key
  | abort =>
    simp only [notes, abort, act, mode]
    split
    · exact .single (.aborted _)
    · exact .nil _
  | setConfig c =>
    have hMode : (e.trySetConfig c).2.mode = e.mode := by
      rw [mode, mode, isBuilding, isBuilding, phase_trySetConfig]
    simp only [notes, act, hMode]
    exact .nil _

theorem path_log (e : Episode) (actions : List (Action α)) :
    Path e.mode (e.log actions) (e.after actions).mode := by
  induction actions generalizing e with
  | nil => exact .nil _
  | cons a actions ih => exact (e.path_act a).trans (ih (e.act a).2)

/-- Whatever is done with a new episode, as many episodes have started in its log as have resolved,
were undefined or were aborted, and one more exactly if one is going on; up to any note it is as
many or one more.  A sequence that is extended is answered by the next note, and nothing else is
answered. -/
theorem log_balances (c : Config) (actions : List (Action α)) :
    let log := ({ config := c } : Episode).log actions
    log.count .episodeStarted = log.countP Note.endsEpisode +
      (if (after { config := c } actions).isBuilding then 1 else 0) ∧
    (∀ earlier, earlier <+: log →
      earlier.countP Note.endsEpisode ≤ earlier.count .episodeStarted ∧
      earlier.count .episodeStarted ≤ earlier.countP Note.endsEpisode + 1) ∧
    (∀ before later sequence, log = before ++ .extended sequence :: later →
      ∃ answer later', later = answer :: later' ∧ answer.answered? = some sequence) ∧
    ∀ before later answer sequence, log = before ++ answer :: later →
      answer.answered? = some sequence → ∃ earlier, before = earlier ++ [.extended sequence] := by
  intro log
  have hPath : Path .idle log (after { config := c } actions).mode :=
    path_log { config := c } actions
  refine ⟨?_, ?_, ?_, ?_⟩
  · have hCount := hPath.count_add_begun
    rw [begun_mode] at hCount
    exact (Nat.zero_add _).symm.trans hCount
  · rintro earlier ⟨later, hLog⟩
    rw [← hLog] at hPath
    obtain ⟨m, hEarlier, -⟩ := hPath.exists_of_append
    have hCount := hEarlier.count_add_begun
    have hBegun := m.begun_le
    have hIdle : Mode.idle.begun = 0 := rfl
    omega
  · intro before later sequence hLog
    rw [hLog] at hPath
    obtain ⟨m, -, hLater⟩ := hPath.exists_of_append
    exact hLater.exists_answer (mode_ne_asking _)
  · intro before later answer sequence hLog hAnswer
    rw [hLog] at hPath
    obtain ⟨m, hBefore, hLater⟩ := hPath.exists_of_append
    obtain rfl := hLater.eq_asking_of_answered hAnswer
    rcases hBefore.eq_append_extended with ⟨-, hAsking⟩ | hExtended
    · cases hAsking
    · exact hExtended

/-- An interruption in mid-lookahead, a key right behind the end of an episode, and one that is
undefined. -/
example :
    let store : Store String := fun text =>
      if text = "C-x" then .nested else if text = "M-f" then .command "forward" else .unbound
    ({} : Episode).log [.feed store (.char 'x'), .feed store (.char 'g'), .abort, .abort,
        .feed store (.char 'g'), .feed store (.char 'f'), .feed store (.char 'q')] =
      [.episodeStarted, .extended "C-x", .prefixKey "C-x", .lookahead "g", .aborted "C-x M-",
        .episodeStarted, .lookahead "g", .extended "M-f", .resolved "M-f",
        .episodeStarted, .extended "C-q", .undefined "C-q"] := by
  decide

end Episode

end Keychord
