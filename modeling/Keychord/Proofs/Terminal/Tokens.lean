import Mathlib.Data.List.Nodup
import Keychord.Proofs.Sequence.RoundTrip
import Keychord.Terminal.Verdict

/-!
# Tokens of terminal keys

The token of a key code can be written in a description (`KeyCode.writable_token`), and no two key
codes have the same one (`KeyCode.token_injective`): a single character stands for itself, an `f`
with a number behind it for a function key, and everything else is one of the names of a table.
-/

namespace Keychord.Terminal

def MediaKey.all : List MediaKey :=
  [.play, .pause, .playPause, .reverse, .stop, .fastForward, .rewind, .trackNext, .trackPrevious,
    .record, .lowerVolume, .raiseVolume, .muteVolume]

def ModifierKey.all : List ModifierKey :=
  [.leftShift, .leftControl, .leftAlt, .leftSuper, .leftHyper, .leftMeta, .rightShift,
    .rightControl, .rightAlt, .rightSuper, .rightHyper, .rightMeta, .isoLevel3Shift,
    .isoLevel5Shift]

namespace KeyCode

/-- The key codes with a name that is fixed: all but the function keys and the characters that
stand for themselves. -/
def fixed : List KeyCode :=
  [.char ' ', .backspace, .enter, .left, .right, .up, .down, .homeKey, .endKey, .pageUp, .pageDown,
    .tab, .backTab, .delete, .insert, .null, .escape, .capsLock, .scrollLock, .numLock,
    .printScreen, .pause, .menu, .keypadBegin] ++
  MediaKey.all.map .media ++ ModifierKey.all.map .modifier

theorem mem_fixed_or (code : KeyCode) :
    code ∈ fixed ∨ (∃ n, code = .function n) ∨ ∃ c, c ≠ ' ' ∧ code = .char c := by
  cases code with
  | char c =>
    by_cases hc : c = ' '
    · subst hc
      exact Or.inl List.mem_cons_self
    · exact Or.inr (Or.inr ⟨c, hc, rfl⟩)
  | function n => exact Or.inr (Or.inl ⟨n, rfl⟩)
  | media key =>
    refine Or.inl (List.mem_append_left _ (List.mem_append_right _ (List.mem_map_of_mem ?_)))
    cases key <;> decide
  | modifier key =>
    refine Or.inl (List.mem_append_right _ (List.mem_map_of_mem ?_))
    cases key <;> decide
  | _ => exact Or.inl (by decide)

theorem toList_token_char {c : Char} (hc : c ≠ ' ') : (char c).key.token.toList = [c] := by
  rw [key, Key.token, if_neg hc, String.toList_singleton]

theorem toList_token_function (n : UInt8) :
    (function n).key.token.toList = 'f' :: Nat.toDigits 10 n.toNat := by
  have hName : ("f" ++ toString n.toNat).toList = 'f' :: Nat.toDigits 10 n.toNat := by
    rw [String.toList_append, Nat.toString_eq_repr, Nat.toList_repr]
    rfl
  have hBackspace : "f" ++ toString n.toNat ≠ "backspace" := by
    intro h
    rw [h] at hName
    cases hName
  rw [key, Key.token, if_neg hBackspace, hName]

theorem token_of_mem_fixed : ∀ code ∈ fixed, Writable code.key.token ∧
    code.key.token.toList.length ≠ 1 ∧ ¬ ['f'] <+: code.key.token.toList := by
  decide +kernel

theorem nodup_fixed : (fixed.map fun code => code.key.token).Nodup := by
  decide +kernel

/-! ## Writable tokens -/

theorem unmarked_of_head {c : Char} {text : List Char} (hC : c ≠ 'C') (hM : c ≠ 'M') :
    Unmarked (c :: text) := by
  refine ⟨?_, ?_⟩
  · rintro ⟨rest, hRest⟩
    exact hC (List.cons.inj hRest).1.symm
  · rintro ⟨rest, hRest⟩
    exact hM (List.cons.inj hRest).1.symm

/-- The token of any key code can be written: no name holds a space or begins with a mark. -/
theorem writable_token (code : KeyCode) : Writable code.key.token := by
  rcases code.mem_fixed_or with hFixed | ⟨n, rfl⟩ | ⟨c, hc, rfl⟩
  · exact (token_of_mem_fixed code hFixed).1
  · constructor <;> rw [toList_token_function]
    · exact List.cons_ne_nil _ _
    · rintro (_ | ⟨_, hDigit⟩)
      have hSpace := Nat.isDigit_of_mem_toDigits (by decide) (by decide) hDigit
      cases hSpace
    · exact unmarked_of_head (by decide) (by decide)
  · constructor <;> rw [toList_token_char hc]
    · exact List.cons_ne_nil _ _
    · exact fun hSpace => hc (List.mem_singleton.mp hSpace).symm
    · refine ⟨?_, ?_⟩ <;> rintro ⟨rest, ⟨⟩⟩

/-! ## Reading a token back -/

/-- The key code that has a token. -/
def ofToken? (token : String) : Option KeyCode :=
  match token.toList with
  | [c] => some (.char c)
  | 'f' :: digits => some (.function (UInt8.ofNat (Nat.ofDigitChars 10 digits 0)))
  | _ => fixed.find? fun code => code.key.token = token

/-- The token of a key code is read back: no other key code with a fixed name has it. -/
theorem ofToken?_token (code : KeyCode) : ofToken? code.key.token = some code := by
  rcases code.mem_fixed_or with hFixed | ⟨n, rfl⟩ | ⟨c, hc, rfl⟩
  · obtain ⟨-, hLength, hHead⟩ := token_of_mem_fixed code hFixed
    unfold ofToken?
    split
    · next c hToken => exact absurd (congrArg List.length hToken) hLength
    · next digits _ hToken => exact absurd (hToken ▸ List.prefix_append ['f'] digits) hHead
    · cases hFind : fixed.find? fun other => other.key.token = code.key.token with
      | none => exact absurd (List.find?_eq_none.mp hFind code hFixed) (by simp)
      | some other =>
        have hToken : other.key.token = code.key.token := by simpa using List.find?_some hFind
        have hOther := List.mem_of_find?_eq_some hFind
        exact congrArg some (List.inj_on_of_nodup_map nodup_fixed hOther hFixed hToken)
  · unfold ofToken?
    rw [toList_token_function]
    split
    · next c hToken => exact absurd (List.cons.inj hToken).2 Nat.toDigits_ne_nil
    · next digits _ hToken =>
      obtain rfl := (List.cons.inj hToken).2
      rw [Nat.ofDigitChars_ten_toDigits, UInt8.ofNat_toNat]
    · next hOther => exact absurd rfl (hOther _)
  · simp only [ofToken?, toList_token_char hc]

theorem token_injective : Function.Injective fun code : KeyCode => code.key.token := by
  intro code code' h
  have hSame : some code = some code' :=
    (ofToken?_token code).symm.trans ((congrArg ofToken? h).trans (ofToken?_token code'))
  exact Option.some.inj hSame

end KeyCode

end Keychord.Terminal
