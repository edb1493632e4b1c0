import Mathlib.Data.Sym.Sym2
import Keychord.Proofs.Config.Triggers

/-!
# Valid configurations are those whose triggers work

A check of a configuration goes through a list and fails with the first entry that has the fault;
`validate` checks all triggers for their texts first, and then all pairs of them.  What it accepts
is not said by these checks: a trigger works if the table of readings hands on its modifier wherever
it is not the first token, and the earlier rows of that table must not hide it.  `Collide` says of
two texts, without their tokens, that they cannot be told apart.
-/

namespace Keychord

/-! ## Texts that collide -/

/-- Two texts have one token if they are equal, or if one of them names the space or the backspace
key and the other one is the token of that key. -/
def Collide (text text' : String) : Prop :=
  text = text' ∨ s(text, text') = s(" ", "SPC") ∨ s(text, text') = s("backspace", "DEL")

instance (text text' : String) : Decidable (Collide text text') :=
  inferInstanceAs (Decidable (_ ∨ _ ∨ _))

theorem tokenOfText_eq_ite (text : String) :
    tokenOfText text =
      if text = " " then "SPC" else if text = "backspace" then "DEL" else text := by
  unfold tokenOfText Key.ofText
  split
  · next c hText =>
    obtain rfl : text = String.singleton c := by
      rw [← String.toList_inj, hText, String.toList_singleton]
    have hSpace : String.singleton c = " " ↔ c = ' ' := by
      rw [← String.toList_inj, String.toList_singleton]
      simp
    have hName : String.singleton c ≠ "backspace" := by
      intro hName
      have hLength := congrArg String.length hName
      rw [String.length_singleton] at hLength
      exact absurd hLength (by decide)
    rw [if_neg hName, Key.token]
    exact if_congr hSpace.symm rfl rfl
  · next hText =>
    have hSpace : text ≠ " " := by
      rintro rfl
      exact hText ' ' rfl
    rw [if_neg hSpace, Key.token]

theorem tokenOfText_eq_iff_collide {text text' : String} :
    tokenOfText text = tokenOfText text' ↔ Collide text text' := by
  rw [tokenOfText_eq_ite, tokenOfText_eq_ite, Collide, Sym2.eq_iff, Sym2.eq_iff]
  grind

namespace Config

variable {c : Config}

/-! ## The first fault -/

/-- The triggers, in the order in which they are checked. -/
def Field.triggers : List Field := [.literalEscape, .metaTrigger, .controlMetaTrigger]

/-- The pairs of triggers, in the order in which they are compared. -/
def Field.pairs : List (Field × Field) :=
  [(.literalEscape, .metaTrigger), (.literalEscape, .controlMetaTrigger),
    (.metaTrigger, .controlMetaTrigger)]

/-- The first trigger that has no text. -/
def firstEmpty? (c : Config) : Option Field := Field.triggers.find? fun f => c.get f = ""

/-- The first pair of triggers whose texts collide. -/
def firstCollision? (c : Config) : Option (Field × Field) :=
  Field.pairs.find? fun p => Collide (c.get p.1) (c.get p.2)

/-- Checks that are made one after the other fail with the first entry that has the fault. -/
theorem foldr_checks_eq {ε β : Type} {check : β → Except ε Unit} {faulty : β → Bool} {fault : β → ε}
    (hCheck : ∀ x, check x = if faulty x then .error (fault x) else .ok ()) (l : List β)
    (last : Except ε Unit) :
    l.foldr (fun x rest => check x >>= fun _ => rest) last =
      match l.find? faulty with
      | some x => .error (fault x)
      | none => last := by
  induction l with
  | nil => rfl
  | cons x l ih =>
    rw [List.foldr_cons, ih, hCheck, List.find?_cons]
    cases faulty x <;> rfl

theorem validate_eq_foldr (c : Config) :
    c.validate = Field.triggers.foldr (fun f rest => c.requireText f >>= fun _ => rest)
      (Field.pairs.foldr (fun p rest => c.requireDistinct p.1 p.2 >>= fun _ => rest) (.ok ())) := by
  have hLast : (c.requireDistinct .metaTrigger .controlMetaTrigger >>= fun _ => .ok ()) =
      c.requireDistinct .metaTrigger .controlMetaTrigger := bind_pure _
  simp only [Field.triggers, Field.pairs, List.foldr_cons, List.foldr_nil, hLast]
  rfl

theorem validate_eq_firstFault (c : Config) :
    c.validate =
      match c.firstEmpty?, c.firstCollision? with
      | some f, _ => .error (.invalidValue f.name "")
      | none, some (f, g) => .error (.conflictingTriggers f.name g.name (tokenOfText (c.get f)))
      | none, none => .ok () := by
  have hText : ∀ f, c.requireText f =
      if decide (c.get f = "") then .error (.invalidValue f.name "") else .ok () := by
    intro f
    simp only [requireText, decide_eq_true_eq]
  have hDistinct : ∀ p : Field × Field, c.requireDistinct p.1 p.2 =
      if decide (Collide (c.get p.1) (c.get p.2)) then
        .error (.conflictingTriggers p.1.name p.2.name (tokenOfText (c.get p.1)))
      else .ok () := by
    intro p
    simp only [requireDistinct, tokenOfText_eq_iff_collide, decide_eq_true_eq]
  rw [validate_eq_foldr, foldr_checks_eq hText, foldr_checks_eq hDistinct]
  unfold firstEmpty? firstCollision?
  cases Field.triggers.find? _ with
  | some f => rfl
  | none =>
    dsimp only
    cases Field.pairs.find? _ <;> rfl

/-! ## Triggers that work -/

/-- Every trigger has a text, and hands its modifier on wherever it is not the first token. -/
structure TriggersWork (c : Config) : Prop where
  texts : ∀ f ∈ Field.triggers, c.get f ≠ ""
  escape : c.reading c.escapeToken false = .lookahead .plain
  metaKey : c.reading c.metaToken false = .lookahead .metaKey
  controlMeta : c.reading c.controlMetaToken false = .lookahead .controlMeta

theorem reading_later_eq_lookahead_iff {token : String} {m : Modifier} :
    c.reading token false = .lookahead m ↔ c.trigger? token = some m := by
  rw [reading_eq, if_neg (by simp)]
  cases c.trigger? token <;> simp

/-- The triggers hand on three modifiers, so they work only if they are three tokens. -/
theorem triggersWork_iff :
    c.TriggersWork ↔
      (c.literalEscape ≠ "" ∧ c.metaTrigger ≠ "" ∧ c.controlMetaTrigger ≠ "") ∧
      c.triggerTokens.Nodup := by
  have hTexts : (∀ f ∈ Field.triggers, c.get f ≠ "") ↔
      c.literalEscape ≠ "" ∧ c.metaTrigger ≠ "" ∧ c.controlMetaTrigger ≠ "" := by
    simp [Field.triggers, get]
  constructor
  · rintro ⟨hText, hEscape, hMeta, hControlMeta⟩
    refine ⟨hTexts.mp hText, nodup_triggerTokens_iff.mpr ⟨fun he => ?_, fun he => ?_, fun he => ?_⟩⟩
    · rw [he, hMeta] at hEscape
      cases hEscape
    · rw [he, hControlMeta] at hEscape
      cases hEscape
    · rw [he, hControlMeta] at hMeta
      cases hMeta
  · rintro ⟨hText, hNodup⟩
    refine ⟨hTexts.mpr hText, ?_, ?_, ?_⟩ <;>
      rw [reading_later_eq_lookahead_iff, trigger?_eq_some_iff hNodup] <;> rfl

/-- A configuration is accepted exactly if all of its triggers work.  If not, it is refused for the
first trigger that has no text, whatever collides, and else for the first pair of triggers that
collide, with the token that they share; and two texts share a token exactly if they collide. -/
theorem validate_ok_iff_triggersWork (c : Config) :
    (c.validate = .ok () ↔ c.TriggersWork) ∧
    (c.validate =
      match c.firstEmpty?, c.firstCollision? with
      | some f, _ => .error (.invalidValue f.name "")
      | none, some (f, g) => .error (.conflictingTriggers f.name g.name (tokenOfText (c.get f)))
      | none, none => .ok ()) ∧
    ∀ text text', tokenOfText text = tokenOfText text' ↔ Collide text text' := by
  refine ⟨?_, c.validate_eq_firstFault, fun _ _ => tokenOfText_eq_iff_collide⟩
  rw [validate_eq_ok_iff, triggersWork_iff]

/-- An empty trigger is named before a collision, and the collisions in their order. -/
example :
    ({ metaTrigger := "SPC", controlMetaTrigger := "" } : Config).validate =
      .error (.invalidValue "control_meta_trigger" "") ∧
    ({ metaTrigger := "DEL", controlMetaTrigger := "backspace" } : Config).validate =
      .error (.conflictingTriggers "meta_trigger" "control_meta_trigger" "DEL") := by
  decide

end Config

end Keychord
