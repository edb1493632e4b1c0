import Mathlib.Data.List.Nodup
import Keychord.Proofs.Episode.Groups

/-!
# Trigger tokens

A configuration is valid if its triggers have texts, and tokens that differ from each other
(`validate_eq_ok_iff`).  Then a trigger tells which modifier it hands on, and a modifier tells which
trigger hands it on (`trigger?_eq_some_iff`).
-/

namespace Keychord.Config

variable {c : Config} {token : String} {m : Modifier}

/-- The tokens of the three triggers. -/
def triggerTokens (c : Config) : List String := [c.escapeToken, c.metaToken, c.controlMetaToken]

/-- The trigger that hands a modifier to the next token.  Control needs none. -/
def triggerToken? (c : Config) : Modifier → Option String
  | .plain => some c.escapeToken
  | .metaKey => some c.metaToken
  | .controlMeta => some c.controlMetaToken
  | .control => none

theorem triggerToken?_eq_none_iff : c.triggerToken? m = none ↔ m = .control := by
  cases m <;> simp [triggerToken?]

theorem mem_triggerTokens_of_triggerToken? (h : c.triggerToken? m = some token) :
    token ∈ c.triggerTokens := by
  unfold triggerTokens
  cases m <;> cases h <;> simp

theorem exists_token_of_mem_triggerTokens (h : token ∈ c.triggerTokens) :
    ∃ key : Key, key.token = token := by
  unfold triggerTokens at h
  simp only [List.mem_cons, List.not_mem_nil, or_false] at h
  rcases h with rfl | rfl | rfl
  · exact ⟨.ofText c.literalEscape, rfl⟩
  · exact ⟨.ofText c.metaTrigger, rfl⟩
  · exact ⟨.ofText c.controlMetaTrigger, rfl⟩

/-! ## Valid configurations -/

theorem checks_eq_ok_iff {ε : Type} {x y : Except ε Unit} :
    (x >>= fun _ => y) = .ok () ↔ x = .ok () ∧ y = .ok () := by
  cases x <;> simp [bind, Except.bind]

theorem checks_eq_error_iff {ε : Type} {x y : Except ε Unit} {e : ε} :
    (x >>= fun _ => y) = .error e ↔ x = .error e ∨ x = .ok () ∧ y = .error e := by
  cases x <;> simp [bind, Except.bind]

theorem requireText_eq_ok_iff {f : Field} : c.requireText f = .ok () ↔ c.get f ≠ "" := by
  unfold requireText
  split
  · next hEmpty => exact iff_of_false (by rintro ⟨⟩) fun h => h hEmpty
  · next hText => exact iff_of_true rfl hText

theorem requireDistinct_eq_ok_iff {f g : Field} :
    c.requireDistinct f g = .ok () ↔ tokenOfText (c.get f) ≠ tokenOfText (c.get g) := by
  unfold requireDistinct
  split
  · next hEqual => exact iff_of_false (by rintro ⟨⟩) fun h => h hEqual
  · next hDistinct => exact iff_of_true rfl hDistinct

theorem nodup_triggerTokens_iff :
    c.triggerTokens.Nodup ↔
      c.escapeToken ≠ c.metaToken ∧ c.escapeToken ≠ c.controlMetaToken ∧
      c.metaToken ≠ c.controlMetaToken := by
  simp [triggerTokens, and_assoc]

theorem validate_eq_ok_iff :
    c.validate = .ok () ↔
      (c.literalEscape ≠ "" ∧ c.metaTrigger ≠ "" ∧ c.controlMetaTrigger ≠ "") ∧
      c.triggerTokens.Nodup := by
  unfold validate
  simp only [checks_eq_ok_iff, requireText_eq_ok_iff, requireDistinct_eq_ok_iff, get,
    nodup_triggerTokens_iff, escapeToken, metaToken, controlMetaToken, and_assoc]

theorem validate_ne_episodeInProgress (c : Config) : c.validate ≠ .error .episodeInProgress := by
  have hText : ∀ f, c.requireText f ≠ .error .episodeInProgress := by
    intro f
    unfold requireText
    split <;> rintro ⟨⟩
  have hDistinct : ∀ f g, c.requireDistinct f g ≠ .error .episodeInProgress := by
    intro f g
    unfold requireDistinct
    split <;> rintro ⟨⟩
  unfold validate
  simp only [ne_eq, checks_eq_error_iff, hText, hDistinct, and_false, or_self, not_false_eq_true]

/-! ## Triggers and modifiers -/

theorem trigger?_eq_none_iff : c.trigger? token = none ↔ token ∉ c.triggerTokens := by
  simp only [triggerTokens, List.mem_cons, List.not_mem_nil, or_false, not_or]
  unfold trigger?
  split
  · next hEscape => exact iff_of_false (Option.some_ne_none _) fun h => h.1 hEscape
  · next hEscape =>
    split
    · next hMeta => exact iff_of_false (Option.some_ne_none _) fun h => h.2.1 hMeta
    · next hMeta =>
      split
      · next hBoth => exact iff_of_false (Option.some_ne_none _) fun h => h.2.2 hBoth
      · next hBoth => exact iff_of_true rfl ⟨hEscape, hMeta, hBoth⟩

theorem triggerToken?_of_trigger? (h : c.trigger? token = some m) :
    c.triggerToken? m = some token := by
  unfold trigger? at h
  split at h
  · next hToken =>
    obtain rfl := Option.some.inj h
    rw [triggerToken?, hToken]
  · split at h
    · next hToken =>
      obtain rfl := Option.some.inj h
      rw [triggerToken?, hToken]
    · split at h
      · next hToken =>
        obtain rfl := Option.some.inj h
        rw [triggerToken?, hToken]
      · cases h

/-- Triggers that differ and the modifiers that they hand on correspond. -/
theorem trigger?_eq_some_iff (hNodup : c.triggerTokens.Nodup) :
    c.trigger? token = some m ↔ c.triggerToken? m = some token := by
  refine ⟨triggerToken?_of_trigger?, fun h => ?_⟩
  obtain ⟨hMeta, hControlMeta, hBoth⟩ := nodup_triggerTokens_iff.mp hNodup
  unfold trigger?
  cases m with
  | plain =>
    obtain rfl := Option.some.inj h
    rw [if_pos rfl]
  | metaKey =>
    obtain rfl := Option.some.inj h
    rw [if_neg hMeta.symm, if_pos rfl]
  | controlMeta =>
    obtain rfl := Option.some.inj h
    rw [if_neg hControlMeta.symm, if_neg hBoth.symm, if_pos rfl]
  | control => cases h

end Keychord.Config
