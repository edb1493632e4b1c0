import Mathlib.Data.List.Infix
import Keychord.Proofs.Sequence.RoundTrip

/-!
# The beginnings of a sequence

`ProperPrefix` compares sequences chord by chord.  The walk from parent to parent comes to every
sequence of one chord or more that properly begins the one it starts from (`mem_ancestors`), and two
beginnings of one sequence always compare (`ProperPrefix.trichotomy`).
-/

namespace Keychord.KeySequence

/-- A sequence begins another one with all its chords, and is not that one. -/
def ProperPrefix (s t : KeySequence) : Prop := s.chords <+: t.chords ∧ s ≠ t

instance (s t : KeySequence) : Decidable (ProperPrefix s t) :=
  inferInstanceAs (Decidable (_ ∧ _))

theorem startsWith_iff {s t : KeySequence} : s.startsWith t = true ↔ t.chords <+: s.chords :=
  List.isPrefixOf_iff_prefix

namespace ProperPrefix

variable {s t u : KeySequence}

theorem length_lt (h : s.ProperPrefix t) : s.length < t.length := by
  refine lt_of_le_of_ne h.1.length_le ?_
  intro hLength
  exact h.2 (KeySequence.ext (h.1.eq_of_length hLength))

theorem irrefl (s : KeySequence) : ¬ s.ProperPrefix s := fun h => h.2 rfl

theorem trans (h : s.ProperPrefix t) (g : t.ProperPrefix u) : s.ProperPrefix u := by
  refine ⟨h.1.trans g.1, ?_⟩
  rintro rfl
  have hLess := h.length_lt
  have hLess' := g.length_lt
  omega

theorem trichotomy (h : s.ProperPrefix u) (g : t.ProperPrefix u) :
    s = t ∨ s.ProperPrefix t ∨ t.ProperPrefix s := by
  by_cases he : s = t
  · exact Or.inl he
  · rcases List.prefix_or_prefix_of_prefix h.1 g.1 with hst | hts
    · exact Or.inr (Or.inl ⟨hst, he⟩)
    · exact Or.inr (Or.inr ⟨hts, Ne.symm he⟩)

theorem writable (h : s.ProperPrefix t) (hs : s.chords ≠ []) (ht : t.Writable) : s.Writable :=
  ⟨hs, fun c hc => ht.token c (h.1.subset hc)⟩

end ProperPrefix

theorem properPrefix_iff_prefix_dropLast {s t : KeySequence} (h : t.chords ≠ []) :
    s.ProperPrefix t ↔ s.chords <+: t.chords.dropLast := by
  have hLast := List.dropLast_append_getLast h
  have hCases : s.chords <+: t.chords ↔ s.chords = t.chords ∨ s.chords <+: t.chords.dropLast := by
    conv_lhs => rw [← hLast]
    rw [List.prefix_concat_iff, hLast]
  have hShort : s.chords <+: t.chords.dropLast → s ≠ t := by
    rintro hPrefix rfl
    have hLength := hPrefix.length_le
    have hPositive := List.length_pos_of_ne_nil h
    rw [List.length_dropLast] at hLength
    omega
  constructor
  · rintro ⟨hPrefix, hNe⟩
    exact (hCases.mp hPrefix).resolve_left fun he => hNe (KeySequence.ext he)
  · intro hPrefix
    exact ⟨hCases.mpr (Or.inr hPrefix), hShort hPrefix⟩

theorem parent_eq_none_iff {s : KeySequence} : s.parent = none ↔ s.chords.dropLast = [] := by
  unfold parent
  split
  · next hNil => exact iff_of_true rfl hNil
  · next hRest => exact iff_of_false (Option.some_ne_none _) hRest

theorem parent_eq_some_iff {s p : KeySequence} :
    s.parent = some p ↔ p.chords = s.chords.dropLast ∧ p.chords ≠ [] := by
  unfold parent
  split
  · next hNil =>
    rw [hNil]
    exact iff_of_false (Option.some_ne_none p).symm fun h => h.2 h.1
  · next rest hRest =>
    constructor
    · intro h
      obtain rfl := Option.some.inj h
      exact ⟨rfl, hRest⟩
    · rintro ⟨hChords, -⟩
      rw [← hChords]

/-- The walk from parent to parent comes to all beginnings of one chord or more, and to nothing
else. -/
theorem mem_ancestors {s t : KeySequence} :
    t ∈ s.ancestors ↔ t.chords ≠ [] ∧ t.ProperPrefix s := by
  fun_induction ancestors s with
  | case1 s hParent =>
    rw [parent_eq_none_iff] at hParent
    refine ⟨fun h => absurd h List.not_mem_nil, ?_⟩
    rintro ⟨hNil, hPrefix⟩
    have hs : s.chords ≠ [] := fun hs => hNil (List.prefix_nil.mp (hs ▸ hPrefix.1))
    rw [properPrefix_iff_prefix_dropLast hs, hParent] at hPrefix
    exact absurd (List.prefix_nil.mp hPrefix) hNil
  | case2 s p hParent ih =>
    obtain ⟨hChords, hNil⟩ := parent_eq_some_iff.mp hParent
    have hs : s.chords ≠ [] := by
      intro hs
      rw [hs] at hChords
      exact hNil hChords
    rw [List.mem_cons, ih, properPrefix_iff_prefix_dropLast hs, ← hChords]
    constructor
    · rintro (rfl | ⟨ht, hPrefix⟩)
      · exact ⟨hNil, List.prefix_rfl⟩
      · exact ⟨ht, hPrefix.1⟩
    · rintro ⟨ht, hPrefix⟩
      by_cases he : t = p
      · exact Or.inl he
      · exact Or.inr ⟨ht, hPrefix, he⟩

end Keychord.KeySequence
