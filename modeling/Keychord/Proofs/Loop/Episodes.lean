import Keychord.Loop
import Keychord.Proofs.Interpreter.Stream

/-!
# A loop, episode by episode

A loop takes its script item by item and keeps an episode between two items.  `run_eq_finish` says
that this comes to reading one episode after the other to its end: the loop reacts to what each came
to, and goes on with a new one.  `finish_ends` says at which item an episode ends.
-/

namespace Keychord

variable {σ α : Type}

/-- What an item can bring about that ends an episode. -/
inductive Item.Ends : Item → Outcome α → Prop
  | failure (cause : InputError) : Ends (.failure cause) (.error (.input cause))
  | command (key : Key) (r : Resolved α) : Ends (.key key) (.ok r)
  | undefined (key : Key) (text : String) : Ends (.key key) (.error (.unresolved text))

namespace Episode

theorem take_spec (e : Episode) (store : Store α) (item : Item) :
    (e.take store item).episode.config = e.config ∧
    ∀ outcome, (e.take store item).outcome = some outcome →
      (e.take store item).episode = { config := e.config } := by
  cases item with
  | ignored event => exact ⟨rfl, by rintro outcome ⟨⟩⟩
  | failure cause => exact ⟨rfl, fun _ _ => rfl⟩
  | key key =>
    have hConfig := (e.feed_spec store key).1
    cases hStep : (e.feed store key).step with
    | pending =>
      simp only [take, hStep]
      exact ⟨hConfig, by rintro outcome ⟨⟩⟩
    | command text c =>
      simp only [take, hStep]
      exact ⟨trivial, fun _ _ => trivial⟩
    | undefined text =>
      simp only [take, hStep]
      exact ⟨trivial, fun _ _ => trivial⟩

theorem push_ends (e : Episode) (store : Store α) (item : Item) :
    ((e.push store item).2 = none → ∀ cause, item ≠ .failure cause) ∧
    ∀ outcome, (e.push store item).2 = some outcome → item.Ends outcome := by
  cases item with
  | ignored event => exact ⟨fun _ cause => by rintro ⟨⟩, by rintro outcome ⟨⟩⟩
  | failure cause =>
    refine ⟨by rintro ⟨⟩, ?_⟩
    rintro outcome ⟨⟩
    exact .failure cause
  | key key =>
    refine ⟨fun _ cause => by rintro ⟨⟩, fun outcome h => ?_⟩
    cases hStep : (e.feed store key).step with
    | pending => simp [push, hStep] at h
    | command text c =>
      simp only [push, hStep] at h
      obtain rfl := Option.some.inj h
      exact .command key _
    | undefined text =>
      simp only [push, hStep] at h
      obtain rfl := Option.some.inj h
      exact .undefined key text

/-- An episode hears no failure before the item that ends it, and where no item does, the script
has been used up. -/
theorem finish_ends (e : Episode) (store : Store α) (script : Script) :
    ∃ heard, (∀ cause, .failure cause ∉ heard) ∧
      ((script = heard ∧ (e.finish store script).seen = (.error (.input .closed), [])) ∨
        ∃ item, script = heard ++ item :: (e.finish store script).rest ∧
          item.Ends (e.finish store script).result) := by
  induction script generalizing e with
  | nil => exact ⟨[], fun cause => List.not_mem_nil, .inl ⟨rfl, rfl⟩⟩
  | cons item script ih =>
    obtain ⟨hOpen, hEnds⟩ := e.push_ends store item
    cases hPush : (e.push store item).2 with
    | none =>
      have hSeen := finish_of_push_none script hPush
      obtain ⟨hResult, hRest⟩ := Prod.mk.inj hSeen
      obtain ⟨heard, hHeard, hCases⟩ := ih (e.push store item).1
      refine ⟨item :: heard, fun cause hCause => ?_, ?_⟩
      · rcases List.mem_cons.mp hCause with hItem | hCause
        · exact hOpen hPush cause hItem.symm
        · exact hHeard cause hCause
      · rcases hCases with ⟨rfl, hClosed⟩ | ⟨last, hScript, hLast⟩
        · exact .inl ⟨rfl, hSeen.trans hClosed⟩
        · refine .inr ⟨last, ?_, ?_⟩
          · rw [hRest, List.cons_append, ← hScript]
          · rw [hResult]
            exact hLast
    | some outcome =>
      obtain ⟨hResult, hRest⟩ := Prod.mk.inj (finish_of_push_some script hPush)
      refine ⟨[], fun cause => List.not_mem_nil, .inr ⟨item, ?_, ?_⟩⟩
      · rw [hRest, List.nil_append]
      · rw [hResult]
        exact hEnds outcome hPush

end Episode

namespace Loop

/-- A loop after an episode has been read, which it reacts to with a new episode. -/
def runAfter (h : Handler σ α) (store : Store α) (config : Config) (inner : σ)
    (read : Read Error (Resolved α)) : σ × Read Error Unit :=
  match react h ⟨{ config }, inner⟩ read.result with
  | .stop answer inner' => (inner', ⟨answer, read.rest, read.notes⟩)
  | .goOn s =>
    let (inner', read') := run h store s read.rest
    (inner', read'.after read.notes)

theorem runAfter_after (h : Handler σ α) (store : Store α) (config : Config) (inner : σ)
    (notes : List Log.Note) (read : Read Error (Resolved α)) :
    runAfter h store config inner (read.after notes) =
      ((runAfter h store config inner read).1,
        (runAfter h store config inner read).2.after notes) := by
  have hResult : (read.after notes).result = read.result := rfl
  have hRest : (read.after notes).rest = read.rest := rfl
  rw [runAfter, runAfter, hResult, hRest]
  cases react h ⟨{ config }, inner⟩ read.result with
  | stop answer inner' => rfl
  | goOn s => simp only [Read.after, List.append_assoc]

/-- A loop in mid-episode reads the episode to its end and goes on from there. -/
theorem run_eq_finish (h : Handler σ α) (store : Store α) (e : Episode) (inner : σ)
    (script : Script) :
    run h store ⟨e, inner⟩ script = runAfter h store e.config inner (e.finish store script) := by
  induction script generalizing e inner with
  | nil => simp only [run, runAfter, Episode.finish, react, h.closes]
  | cons item script ih =>
    obtain ⟨hConfig, hFresh⟩ := e.take_spec store item
    cases hOutcome : (e.take store item).outcome with
    | none =>
      have hRun : run h store ⟨e, inner⟩ (item :: script) =
          ((run h store ⟨(e.take store item).episode, inner⟩ script).1,
            (run h store ⟨(e.take store item).episode, inner⟩ script).2.after
              (e.take store item).notes) := by
        simp only [run, step, hOutcome]
      have hFinish : e.finish store (item :: script) =
          ((e.take store item).episode.finish store script).after (e.take store item).notes := by
        simp only [Episode.finish, hOutcome]
      rw [hRun, hFinish, runAfter_after, ih, hConfig]
    | some outcome =>
      have hFinish : e.finish store (item :: script) =
          ⟨outcome, script, (e.take store item).notes⟩ := by
        simp only [Episode.finish, hOutcome]
      rw [hFinish, runAfter]
      simp only [run, step, hOutcome, hFresh outcome hOutcome]
      cases react h ⟨{ config := e.config }, inner⟩ outcome <;> rfl

end Loop

end Keychord
