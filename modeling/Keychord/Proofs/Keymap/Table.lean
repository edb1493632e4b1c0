import Mathlib.Data.String.Basic
import Mathlib.Order.Bounds.Basic
import Keychord.Keymap

/-!
# The table of bindings

A binding is put into a table that stays in the order of its texts.  `lookup_insertBinding` says
what the table then answers, `mem_insertBinding` which texts it has, and `pairwise_insertBinding`
that they keep their order.
-/

namespace Keychord.Keymap

variable {α : Type}

theorem lookup_cons_eq_ite {β : Type} [DecidableEq β] (key other : β) (command : α)
    (l : List (β × α)) :
    ((key, command) :: l).lookup other = if other = key then some command else l.lookup other := by
  by_cases he : other = key
  · rw [he, List.lookup_cons_self, if_pos rfl]
  · rw [List.lookup_cons, beq_eq_false_iff_ne.mpr he, if_neg he]

theorem lookup_insertBinding (text other : String) (command : α) (l : List (String × α)) :
    (insertBinding text command l).lookup other =
      if other = text then some command else l.lookup other := by
  induction l with
  | nil => exact lookup_cons_eq_ite text other command []
  | cons entry rest ih =>
    obtain ⟨key, former⟩ := entry
    unfold insertBinding
    split
    · next hKey =>
      subst hKey
      simp only [lookup_cons_eq_ite]
      split <;> rfl
    · next hKey =>
      split
      · rw [lookup_cons_eq_ite]
      · rw [lookup_cons_eq_ite, ih, lookup_cons_eq_ite]
        by_cases he : other = key
        · subst he
          rw [if_pos rfl, if_neg hKey, if_pos rfl]
        · rw [if_neg he, if_neg he]

theorem mem_insertBinding {text other : String} {command : α} {l : List (String × α)} :
    other ∈ (insertBinding text command l).map Prod.fst ↔
      other = text ∨ other ∈ l.map Prod.fst := by
  induction l with
  | nil => simp [insertBinding]
  | cons entry rest ih =>
    obtain ⟨key, former⟩ := entry
    unfold insertBinding
    split
    · next hKey => simp [hKey]
    · split
      · simp
      · simp only [List.map_cons, List.mem_cons, ih]
        exact or_left_comm

theorem pairwise_insertBinding {text : String} {command : α} {l : List (String × α)}
    (h : (l.map Prod.fst).Pairwise (· < ·)) :
    ((insertBinding text command l).map Prod.fst).Pairwise (· < ·) := by
  induction l with
  | nil => exact List.pairwise_singleton _ _
  | cons entry rest ih =>
    obtain ⟨key, former⟩ := entry
    have hParts := List.pairwise_cons.mp h
    unfold insertBinding
    split
    · next hKey =>
      subst hKey
      exact h
    · next hKey =>
      split
      · next hLess =>
        refine List.pairwise_cons.mpr ⟨?_, h⟩
        intro other hOther
        rcases List.mem_cons.mp hOther with rfl | hRest
        · exact hLess
        · exact lt_trans hLess (hParts.1 other hRest)
      · next hLess =>
        refine List.pairwise_cons.mpr ⟨?_, ih hParts.2⟩
        intro other hOther
        rcases mem_insertBinding.mp hOther with rfl | hRest
        · exact lt_of_le_of_ne (not_lt.mp hLess) hKey
        · exact hParts.1 other hRest

theorem isLeast_of_find? {l : List String} (h : l.Pairwise (· < ·)) {p : String → Bool}
    {text : String} (hFind : l.find? p = some text) :
    IsLeast {other | other ∈ l ∧ p other = true} text := by
  obtain ⟨hText, before, after, rfl, hBefore⟩ := List.find?_eq_some_iff_append.mp hFind
  refine ⟨⟨List.mem_append_right before List.mem_cons_self, hText⟩, ?_⟩
  rintro other ⟨hOther, hp⟩
  rcases List.mem_append.mp hOther with hMem | hMem
  · have hNot := hBefore other hMem
    rw [hp] at hNot
    cases hNot
  · rcases List.mem_cons.mp hMem with rfl | hMem
    · exact le_rfl
    · exact le_of_lt ((List.pairwise_cons.mp (List.pairwise_append.mp h).2.1).1 other hMem)

end Keychord.Keymap
