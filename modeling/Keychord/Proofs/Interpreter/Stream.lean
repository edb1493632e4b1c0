import Keychord.Proofs.Interpreter.Reference

/-!
# One lookup after the other

A script can be read by one lookup after the other, each with an episode of its own, or its items
can be pushed into a single episode that lives on.  Both give the same calls: the pushed items are
cut behind every answer.
-/

namespace Keychord

variable {α : Type}

/-! ## Pushing items -/

namespace Episode

/-- One item pushed into an episode that lives on: a key is fed, and a failure aborts. -/
def push (e : Episode) (store : Store α) : Item → Episode × Option (Outcome α)
  | .ignored _ => (e, none)
  | .failure cause => (e.abort.1, some (.error (.input cause)))
  | .key key =>
    let fed := e.feed store key
    match fed.step with
    | .pending => (fed.episode, none)
    | .command text c => (fed.episode, some (.ok ⟨text, c, fed.episode.keysConsumed⟩))
    | .undefined text => (fed.episode, some (.error (.unresolved text)))

/-- All items of a script pushed one after the other, each with what it brought about. -/
def pushed (e : Episode) (store : Store α) : Script → List (Item × Option (Outcome α))
  | [] => []
  | item :: script => (item, (e.push store item).2) :: (e.push store item).1.pushed store script

/-- A push leaves the configuration as it is, counts the keys of the episode that goes on, and
begins the count again behind an answer. -/
theorem push_spec (e : Episode) (store : Store α) (item : Item) :
    (e.push store item).1.config = e.config ∧
    ((e.push store item).2 = none →
      (e.push store item).1.taken = e.taken + (Script.keys [item]).length) ∧
    ∀ outcome, (e.push store item).2 = some outcome →
      (e.push store item).1.isBuilding = false ∧
      ∀ r, outcome = .ok r → r.keysConsumed = e.taken + (Script.keys [item]).length := by
  cases item with
  | ignored event => exact ⟨rfl, fun _ => rfl, by rintro outcome ⟨⟩⟩
  | failure cause =>
    refine ⟨rfl, by rintro ⟨⟩, ?_⟩
    rintro outcome ⟨⟩
    exact ⟨rfl, by rintro r ⟨⟩⟩
  | key key =>
    obtain ⟨hConfig, hKeys, hBuilding⟩ := e.feed_spec store key
    cases hStep : (e.feed store key).step with
    | pending =>
      simp only [push, hStep]
      refine ⟨hConfig, fun _ => ?_, by rintro outcome ⟨⟩⟩
      rw [taken, hBuilding.mpr hStep, if_pos rfl, hKeys]
      rfl
    | command text c =>
      simp only [push, hStep]
      refine ⟨hConfig, by rintro ⟨⟩, ?_⟩
      rintro outcome ⟨⟩
      refine ⟨by simp [← Bool.not_eq_true, hBuilding, hStep], ?_⟩
      rintro r ⟨⟩
      exact hKeys
    | undefined text =>
      simp only [push, hStep]
      refine ⟨hConfig, by rintro ⟨⟩, ?_⟩
      rintro outcome ⟨⟩
      exact ⟨by simp [← Bool.not_eq_true, hBuilding, hStep], by rintro r ⟨⟩⟩

theorem finish_of_push_none {e : Episode} {store : Store α} {item : Item} (script : Script)
    (h : (e.push store item).2 = none) :
    (e.finish store (item :: script)).seen = ((e.push store item).1.finish store script).seen := by
  cases item with
  | ignored event => rfl
  | failure cause => cases h
  | key key =>
    cases hStep : (e.feed store key).step with
    | pending =>
      rw [finish_of_pending hStep]
      simp only [push, hStep]
    | command text c => simp [push, hStep] at h
    | undefined text => simp [push, hStep] at h

theorem finish_of_push_some {e : Episode} {store : Store α} {item : Item} {outcome : Outcome α}
    (script : Script) (h : (e.push store item).2 = some outcome) :
    (e.finish store (item :: script)).seen = (outcome, script) := by
  cases item with
  | ignored event => cases h
  | failure cause =>
    obtain rfl := Option.some.inj h
    rfl
  | key key =>
    cases hStep : (e.feed store key).step with
    | pending => simp [push, hStep] at h
    | command text c =>
      simp only [push, hStep] at h
      obtain rfl := Option.some.inj h
      exact finish_of_command hStep
    | undefined text =>
      simp only [push, hStep] at h
      obtain rfl := Option.some.inj h
      exact finish_of_undefined hStep

/-- Where no episode is going on, nothing is left of the ones before. -/
theorem finish_of_idle {e : Episode} (store : Store α) (script : Script)
    (h : e.isBuilding = false) :
    (e.finish store script).seen = (finish { config := e.config } store script).seen := by
  rw [finish_eq_settle, finish_eq_settle, builder_of_idle h, taken_of_idle h]
  rfl

theorem finish_rest_length (e : Episode) (store : Store α) (script : Script) :
    (e.finish store script).rest.length ≤ script.length - 1 := by
  induction script generalizing e with
  | nil => exact le_rfl
  | cons item script ih =>
    cases hPush : (e.push store item).2 with
    | none =>
      have hLength := ih (e.push store item).1
      rw [Read.rest_eq_of_seen (finish_of_push_none script hPush), List.length_cons]
      omega
    | some outcome =>
      have hRest : (e.finish store (item :: script)).rest = script :=
        (Prod.mk.inj (finish_of_push_some script hPush)).2
      rw [hRest, List.length_cons, Nat.add_sub_cancel]

end Episode

/-! ## Calls -/

/-- A call of lookup: the items it has read, and its outcome. -/
structure Call (α : Type) where
  items : Script
  outcome : Outcome α

/-- Cuts pushed items behind every answer.  What is left over without an answer belongs to a call
for which the source has closed. -/
def Call.cut (unanswered : Script) : List (Item × Option (Outcome α)) → List (Call α)
  | [] => if unanswered = [] then [] else [⟨unanswered, .error (.input .closed)⟩]
  | (item, none) :: rest => cut (unanswered ++ [item]) rest
  | (item, some outcome) :: rest => ⟨unanswered ++ [item], outcome⟩ :: cut [] rest

/-- A call for what a reader has read of a script. -/
def Call.ofRead (unanswered script : Script) (read : Read Error (Resolved α)) : Call α :=
  ⟨unanswered ++ script.take (script.length - read.rest.length), read.result⟩

/-- The calls of lookup that read a script to its end. -/
def Interpreter.calls (i : Interpreter) (store : Store α) : Script → List (Call α)
  | [] => []
  | item :: script =>
    let read := i.lookup store (item :: script)
    .ofRead [] (item :: script) read :: i.calls store read.rest
termination_by script => script.length
decreasing_by exact Nat.lt_succ_of_le (Episode.finish_rest_length _ store (item :: script))

theorem Call.ofRead_congr {read read' : Read Error (Resolved α)} (unanswered script : Script)
    (h : read.seen = read'.seen) :
    ofRead unanswered script read = ofRead unanswered script read' := by
  obtain ⟨hResult, hRest⟩ := Prod.mk.inj h
  rw [ofRead, ofRead, hResult, hRest]

theorem Interpreter.calls_of_idle (i : Interpreter) (store : Store α) {e : Episode}
    {script : Script} (hConfig : e.config = i.config) (hIdle : e.isBuilding = false)
    (hScript : script ≠ []) :
    i.calls store script = .ofRead [] script (e.finish store script) ::
      i.calls store (e.finish store script).rest := by
  have hSeen : (i.lookup store script).seen = (e.finish store script).seen := by
    rw [Episode.finish_of_idle store script hIdle, hConfig]
    rfl
  have hRest := Read.rest_eq_of_seen hSeen
  cases script with
  | nil => exact absurd rfl hScript
  | cons item script => rw [calls, Call.ofRead_congr [] (item :: script) hSeen, hRest]

/-- Behind items without an answer, the cut goes on with the call that finishes the episode. -/
theorem Call.cut_pushed (i : Interpreter) (store : Store α) {e : Episode}
    {unanswered script : Script} (hConfig : e.config = i.config) (hNe : unanswered ++ script ≠ []) :
    cut unanswered (e.pushed store script) =
      ofRead unanswered script (e.finish store script) ::
        i.calls store (e.finish store script).rest := by
  induction script generalizing e unanswered with
  | nil =>
    rw [List.append_nil] at hNe
    simp [Episode.pushed, cut, hNe, Episode.finish, ofRead, Interpreter.calls]
  | cons item script ih =>
    obtain ⟨hPushed, -, hAnswer⟩ := e.push_spec store item
    rw [hConfig] at hPushed
    cases hPush : (e.push store item).2 with
    | none =>
      have hSeen := Episode.finish_of_push_none script hPush
      have hRest := Read.rest_eq_of_seen hSeen
      have hLength := (e.push store item).1.finish_rest_length store script
      rw [Episode.pushed, hPush, cut, ih hPushed (by simp), ofRead_congr _ _ hSeen, hRest, ofRead,
        ofRead, List.length_cons, Nat.succ_sub (by omega), List.take_succ_cons, List.append_assoc]
      rfl
    | some outcome =>
      -- The next call begins here, whatever the episode has kept of the one that ended.
      have hIdle := (hAnswer outcome hPush).1
      obtain ⟨hResult, hRest⟩ := Prod.mk.inj (Episode.finish_of_push_some script hPush)
      have hCalls : cut [] ((e.push store item).1.pushed store script) = i.calls store script := by
        by_cases hScript : script = []
        · subst hScript
          simp [Episode.pushed, cut, Interpreter.calls]
        · have hNe : [] ++ script ≠ [] := hScript
          rw [ih hPushed hNe, ← i.calls_of_idle store hPushed hIdle hScript]
      rw [Episode.pushed, hPush, cut, hCalls, ofRead, hResult, hRest, List.length_cons,
        Nat.add_sub_cancel_left]
      rfl

theorem Call.items_cut (e : Episode) (store : Store α) (unanswered script : Script) :
    (cut unanswered (e.pushed store script)).flatMap items = unanswered ++ script := by
  induction script generalizing e unanswered with
  | nil => by_cases h : unanswered = [] <;> simp [Episode.pushed, cut, h]
  | cons item script ih =>
    cases hPush : (e.push store item).2 with
    | none =>
      rw [Episode.pushed, hPush, cut, ih, List.append_assoc]
      rfl
    | some outcome =>
      rw [Episode.pushed, hPush, cut, List.flatMap_cons, ih, List.append_assoc]
      rfl

theorem Call.keysConsumed_of_mem_cut {e : Episode} {store : Store α} {unanswered script : Script}
    (hTaken : e.taken = unanswered.keys.length) :
    ∀ call ∈ cut unanswered (e.pushed store script), ∀ r, call.outcome = .ok r →
      r.keysConsumed = call.items.keys.length := by
  induction script generalizing e unanswered with
  | nil =>
    intro call hCall r hr
    by_cases h : unanswered = []
    · simp [Episode.pushed, cut, h] at hCall
    · simp only [Episode.pushed, cut, h, if_false, List.mem_singleton] at hCall
      rw [hCall] at hr
      cases hr
  | cons item script ih =>
    obtain ⟨-, hOpen, hAnswer⟩ := e.push_spec store item
    have hKeys : (unanswered ++ [item]).keys.length =
        unanswered.keys.length + (Script.keys [item]).length := by
      rw [Script.keys_append, List.length_append]
    cases hPush : (e.push store item).2 with
    | none =>
      rw [Episode.pushed, hPush, cut]
      exact ih ((hOpen hPush).trans (hTaken ▸ hKeys.symm))
    | some outcome =>
      obtain ⟨hIdle, hOutcome⟩ := hAnswer outcome hPush
      rw [hTaken, ← hKeys] at hOutcome
      rw [Episode.pushed, hPush, cut]
      intro call hCall
      rcases List.mem_cons.mp hCall with rfl | hCall
      · exact hOutcome
      · exact ih (Episode.taken_of_idle hIdle) call hCall

/-- One lookup after the other comes to what a single episode comes to when it is pushed the items
of the script, call by call; every call reads the items of its own episode and no others. -/
theorem Interpreter.calls_agree_with_pushed (i : Interpreter) (store : Store α) (script : Script) :
    i.calls store script = Call.cut [] (Episode.pushed { config := i.config } store script) ∧
    (i.calls store script).flatMap Call.items = script ∧
    ∀ call ∈ i.calls store script, ∀ r, call.outcome = .ok r →
      r.keysConsumed = call.items.keys.length := by
  have hCalls : i.calls store script =
      Call.cut [] (Episode.pushed { config := i.config } store script) := by
    by_cases hScript : script = []
    · subst hScript
      simp [calls, Episode.pushed, Call.cut]
    · have hNe : [] ++ script ≠ [] := hScript
      have hConfig : ({ config := i.config } : Episode).config = i.config := rfl
      rw [Call.cut_pushed i store hConfig hNe]
      exact i.calls_of_idle store hConfig rfl hScript
  rw [hCalls]
  exact ⟨rfl, Call.items_cut _ store [] script, Call.keysConsumed_of_mem_cut rfl⟩

end Keychord
