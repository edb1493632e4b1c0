import Keychord.Proofs.Config.Validation
import Keychord.Proofs.Episode.Accounts
import Keychord.Proofs.Sequence.Words

/-!
# The echo of an episode

An episode echoes its chords and the modifier that is pending behind them.  Whether a space goes
between the two is decided by the text of the chords, which must not be empty where there are
chords: under a valid configuration it is not, because only the escape trigger can be a first chord
without a mark, and its token is not empty (`Strikable.description_eq_empty_iff`).  Then every key
goes on with the echo (`Spelled.exists_echo_feed`).
-/

namespace Keychord

/-! ## Texts that are not empty -/

theorem Modifier.text_eq_empty_iff {m : Modifier} : m.text = "" ↔ m = .plain := by
  cases m <;> decide

theorem tokenOfText_ne_empty {text : String} (h : text ≠ "") : tokenOfText text ≠ "" := by
  rw [tokenOfText_eq_ite]
  split
  · decide
  · split
    · decide
    · exact h

theorem Config.escapeToken_ne_empty {c : Config} (hValid : c.validate = .ok ()) :
    c.escapeToken ≠ "" := tokenOfText_ne_empty (validate_eq_ok_iff.mp hValid).1.1

theorem Config.Strikable.description_eq_empty_iff {c : Config} {s : KeySequence}
    (hs : c.Strikable s) (hValid : c.validate = .ok ()) :
    s.description = "" ↔ s.isEmpty = true := by
  obtain ⟨chords⟩ := s
  cases chords with
  | nil => exact iff_of_true rfl rfl
  | cons first later =>
    refine iff_of_false (fun hDescription => ?_) Bool.false_ne_true
    have hFirst : first.text = "" := by
      rw [KeySequence.description_cons, String.append_eq_empty_iff] at hDescription
      exact hDescription.1
    obtain ⟨hMarks, hToken⟩ := String.append_eq_empty_iff.mp hFirst
    have hPlain := Modifier.text_eq_empty_iff.mp hMarks
    rw [hs.first first rfl hPlain] at hToken
    exact Config.escapeToken_ne_empty hValid hToken

namespace Builder

variable {c : Config} {b : Builder} {tokens : List String}

/-! ## The echo of a builder -/

/-- The chords so far as a text, and the pending modifier after them. -/
def echo (b : Builder) : String :=
  let text := b.sequence.description
  match b.pending with
  | none => text
  | some modifier => (if text = "" then text else text ++ " ") ++ modifier.text

theorem echo_of_pending_none (h : b.pending = none) : b.echo = b.sequence.description := by
  simp only [echo, h]

theorem Spelled.echo_of_pending_some (h : Spelled c b tokens) (hValid : c.validate = .ok ())
    {m : Modifier} (hPending : b.pending = some m) : b.echo = b.sequence.lead ++ m.text := by
  have hEmpty := h.strikable.description_eq_empty_iff hValid
  simp only [echo, hPending, KeySequence.lead]
  by_cases hDescription : b.sequence.description = ""
  · rw [if_pos hDescription, if_pos (hEmpty.mp hDescription), hDescription]
  · rw [if_neg hDescription, if_neg (hEmpty.not.mp hDescription)]

theorem Spelled.exists_lead_eq (h : Spelled c b tokens) (hValid : c.validate = .ok ()) :
    ∃ more, b.sequence.lead = b.sequence.description ++ more := by
  unfold KeySequence.lead
  split
  · next hEmpty =>
    rw [(h.strikable.description_eq_empty_iff hValid).mpr hEmpty]
    exact ⟨"", rfl⟩
  · exact ⟨" ", rfl⟩

/-- What is echoed after a key goes on with what was echoed before it. -/
theorem Spelled.exists_echo_feed (h : Spelled c b tokens) (hValid : c.validate = .ok ())
    (key : Key) : ∃ more, (b.feed c key).builder.echo = b.echo ++ more := by
  have hFed := h.feed key
  cases hPending : b.pending with
  | some m =>
    have hEcho : (b.feed c key).builder.echo = b.echo ++ key.token := by
      rw [feed_of_pending hPending, echo_of_pending_none rfl, KeySequence.description_push,
        h.echo_of_pending_some hValid hPending, Chord.text, String.append_assoc]
    exact ⟨key.token, hEcho⟩
  | none =>
    obtain ⟨space, hLead⟩ := h.exists_lead_eq hValid
    rw [echo_of_pending_none hPending]
    rcases b.feed_cases c key with ⟨m, -, hBuilder⟩ | ⟨-, m, -, hBuilder⟩
    · rw [hBuilder, echo_of_pending_none rfl, KeySequence.description_push, hLead,
        String.append_assoc]
      exact ⟨_, rfl⟩
    · rw [hBuilder] at hFed ⊢
      rw [hFed.echo_of_pending_some hValid rfl, hLead, String.append_assoc]
      exact ⟨_, rfl⟩

end Builder

namespace Episode

variable {α : Type} {e : Episode} {keys : List Key}

theorem echo_eq_builder_echo (e : Episode) : e.echo = e.builder.echo := rfl

/-- What is shown after a key: the echo while the episode goes on, and the sequence that is reported
when it ends. -/
def Fed.shown (fed : Fed α) : String :=
  match fed.step with
  | .pending => fed.episode.echo
  | .command sequence _ | .undefined sequence => sequence

theorem shown_feed (e : Episode) (store : Store α) (key : Key) :
    (e.feed store key).shown = (e.builder.feed e.config key).builder.echo := by
  have hFeed := e.feed_eq store key
  dsimp only at hFeed
  split at hFeed
  · next command hIdle _ =>
    simp only [Fed.shown, (Prod.mk.inj hFeed).1, Builder.echo_of_pending_none hIdle]
  · next hIdle _ =>
    simp only [Fed.shown, (Prod.mk.inj hFeed).1, Builder.echo_of_pending_none hIdle]
  · simp only [Fed.shown, (Prod.mk.inj hFeed).1, (Prod.mk.inj hFeed).2]
    rfl

theorem validate_act (hValid : e.config.validate = .ok ()) (a : Action α) :
    (e.act a).2.config.validate = .ok () := by
  cases a with
  | feed store key => exact (congrArg Config.validate (e.feed_spec store key).1).trans hValid
  | abort => exact hValid
  | setConfig c =>
    rw [act]
    rcases e.trySetConfig_cases c with ⟨-, hEq⟩ | ⟨-, err, -, hEq⟩ | ⟨-, hValid', hEq⟩ <;> rw [hEq]
    · exact hValid
    · exact hValid
    · exact hValid'

theorem validate_after (hValid : e.config.validate = .ok ()) (actions : List (Action α)) :
    (e.after actions).config.validate = .ok () := by
  induction actions generalizing e with
  | nil => exact hValid
  | cons a actions ih => exact ih (validate_act hValid a)

namespace HasRead

theorem echo_eq_empty_iff (h : e.HasRead keys) (hValid : e.config.validate = .ok ()) :
    e.echo = "" ↔ e.isBuilding = false := by
  constructor
  · intro hEcho
    by_contra hBuilding
    have hAccounted := h.accounted (Bool.not_eq_false _ ▸ hBuilding)
    have hEmpty := h.spelled.strikable.description_eq_empty_iff hValid
    rw [echo_eq_builder_echo] at hEcho
    cases hPending : e.builder.pending with
    | none =>
      rw [Builder.echo_of_pending_none hPending] at hEcho
      have hNil := List.isEmpty_iff.mp (hEmpty.mp hEcho)
      exact hAccounted.begun.elim (fun hChords => hChords hNil) fun hNone => hNone hPending
    | some m =>
      -- The modifier has marks, or keeps Control away from a chord after the first.
      rw [h.spelled.echo_of_pending_some hValid hPending, String.append_eq_empty_iff] at hEcho
      obtain ⟨hLead, hMarks⟩ := hEcho
      obtain rfl := Modifier.text_eq_empty_iff.mp hMarks
      have hChords := hAccounted.plain hPending
      have hNotEmpty : ¬ e.builder.sequence.isEmpty = true := fun hNil =>
        hChords (List.isEmpty_iff.mp hNil)
      rw [KeySequence.lead, if_neg hNotEmpty, String.append_eq_empty_iff] at hLead
      exact absurd hLead.2 (by decide)
  · intro hIdle
    rw [echo_eq_builder_echo, builder_of_idle hIdle]
    rfl

theorem exists_shown_feed (h : e.HasRead keys) (hValid : e.config.validate = .ok ())
    (store : Store α) (key : Key) : ∃ more, (e.feed store key).shown = e.echo ++ more := by
  rw [shown_feed, echo_eq_builder_echo]
  exact h.spelled.exists_echo_feed hValid key

/-- Stores that differ in their answer to the empty text only do not differ in what a key does. -/
theorem feed_congr (h : e.HasRead keys) (hValid : e.config.validate = .ok ()) {key : Key}
    {store store' : Store α} (hStores : ∀ text, text ≠ "" → store text = store' text) :
    e.feed store key = e.feed store' key := by
  have hSpelled := h.spelled.feed key
  rcases e.builder.feed_cases e.config key with ⟨m, hStep, hBuilder⟩ | ⟨-, m, hStep, -⟩
  · have hText : (e.builder.feed e.config key).builder.sequence.description ≠ "" := by
      rw [ne_eq, hSpelled.strikable.description_eq_empty_iff hValid, hBuilder,
        Builder.isEmpty_push]
      exact Bool.false_ne_true
    simp only [Episode.feed, hStep, dispatch, hStores _ hText]
  · simp only [Episode.feed, hStep]

end HasRead

/-- After any run of an episode that was made with a valid configuration, there is an echo exactly
while the episode goes on.  Every key goes on with the echo, be it with the next echo or with the
sequence that is reported in the end; and the store is never asked about the empty text: what it
would answer there makes no difference. -/
theorem echo_grows {c : Config} (hValid : c.validate = .ok ()) (actions : List (Action α)) :
    let e := after { config := c } actions
    (e.echo = "" ↔ e.isBuilding = false) ∧
    ∀ (store : Store α) (key : Key),
      (∃ more, (e.feed store key).shown = e.echo ++ more) ∧
      ∀ store' : Store α, (∀ text, text ≠ "" → store text = store' text) →
        e.feed store key = e.feed store' key := by
  obtain ⟨keys, hRead, -⟩ := exists_hasRead c actions
  have hConfig := validate_after (e := { config := c }) hValid actions
  refine ⟨hRead.echo_eq_empty_iff hConfig, fun store key => ?_⟩
  exact ⟨hRead.exists_shown_feed hConfig store key, fun store' => hRead.feed_congr hConfig⟩

/-- A nameless key is echoed by its mark alone, and by nothing behind the Meta mark. -/
theorem echo_grows_nameless :
    let nested : Store String := fun _ => .nested
    let e := after {} [(.feed nested (.named "") : Action String), .feed nested (.char 'g')]
    ({} : Config).validate = .ok () ∧ e.echo = "C- M-" ∧ (e.echo = "" ↔ e.isBuilding = false) ∧
    (e.feed nested (.named "")).shown = "C- M-" ∧
    ∃ more, (e.feed nested (.char 'f')).shown = e.echo ++ more := by
  intro nested e
  have hValid : ({} : Config).validate = .ok () := rfl
  obtain ⟨hEcho, hFeed⟩ := echo_grows hValid
    [(.feed nested (.named "") : Action String), .feed nested (.char 'g')]
  exact ⟨hValid, by decide, hEcho, by decide, (hFeed nested (.char 'f')).1⟩

end Episode

end Keychord
