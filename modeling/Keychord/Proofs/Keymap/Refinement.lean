import Mathlib.Data.Finset.Sort
import Keychord.Proofs.Keymap.History

/-!
# A keymap is a prefix-free map of sequences

A keymap answers by two tables of texts.  `History.answer` answers from the bindings that were made,
sequence by sequence.  The two agree on every text after every run of calls, and the descriptions of
a keymap are those of the bound sequences in their order.
-/

namespace Keychord.Keymap.History

variable {α : Type}

/-- What a text stands for by the bindings that were made: its command, or the beginning of a bound
sequence. -/
def answer (h : History α) (d : String) : Binding α :=
  match KeySequence.parse d with
  | .error _ => .unbound
  | .ok s =>
    match h.bound s with
    | some c => .command c
    | none => if ∃ t ∈ h.domain, s.ProperPrefix t then .nested else .unbound

namespace Sound

variable {h : History α}

theorem resolve_eq_answer (hSound : h.Sound) (d : String) : h.keymap.resolve d = h.answer d := by
  unfold resolve answer
  cases hParse : KeySequence.parse d with
  | error e => rfl
  | ok s =>
    have hs := KeySequence.writable_of_parse hParse
    simp only [hSound.lookup s hs]
    cases h.bound s with
    | some c => rfl
    | none => exact if_congr (hSound.description_mem_prefixes hs) rfl rfl

theorem descriptions_eq_sort (hSound : h.Sound) :
    h.keymap.descriptions = (h.domain.image KeySequence.description).sort (· ≤ ·) := by
  have hNodup : h.keymap.descriptions.Nodup := hSound.ordered.imp fun hLess => hLess.ne
  have hImage : h.keymap.descriptions.toFinset = h.domain.image KeySequence.description := by
    ext text
    rw [List.mem_toFinset, Finset.mem_image, hSound.descriptions]
  rw [← hImage]
  exact ((List.toFinset_sort (· ≤ ·) hNodup).mpr (hSound.ordered.imp fun hLess => hLess.le)).symm

/-- No two bound sequences share a description, so there are as many descriptions as sequences. -/
theorem size_eq_card (hSound : h.Sound) : h.keymap.size = h.domain.card := by
  have hInjective : Set.InjOn KeySequence.description h.domain := by
    intro s hs t ht he
    exact (hSound.writable s hs).eq_of_description (hSound.writable t ht) he
  have hLength := congrArg List.length hSound.descriptions_eq_sort
  rw [Finset.length_sort, Finset.card_image_of_injOn hInjective, Keymap.descriptions,
    List.length_map] at hLength
  exact hLength

end Sound

/-- After any run of calls of `bind`, refused ones among them, the keymap is a prefix-free map of
sequences: no bound sequence properly begins another, every text is answered as the last bindings
of the sequences say, and the descriptions are those of the bound sequences, each once and in the
order of code points. -/
theorem run_refines_prefixFree_map (calls : List (String × α)) :
    (∀ s ∈ (run calls).domain, ∀ t ∈ (run calls).domain, ¬ s.ProperPrefix t) ∧
    (∀ d, (run calls).keymap.resolve d = (run calls).answer d) ∧
    (run calls).keymap.size = (run calls).domain.card ∧
    (run calls).keymap.descriptions =
      ((run calls).domain.image KeySequence.description).sort (· ≤ ·) := by
  have hSound := sound_run calls
  exact ⟨hSound.prefixFree, hSound.resolve_eq_answer, hSound.size_eq_card,
    hSound.descriptions_eq_sort⟩

end Keychord.Keymap.History
