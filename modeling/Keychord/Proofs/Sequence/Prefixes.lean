import Mathlib.Logic.Function.Iterate
import Keychord.Proofs.Sequence.Ancestors
import Keychord.Proofs.Sequence.Words

/-!
# Beginnings in the text

Whether one sequence begins another can be read off their descriptions, if both are writable
(`Writable.prefix_iff_description`): a space behind the shorter text ends its last chord, so `C-x`
does not begin `C-xy`.  And the sequences that begin a given one are the parents that are reached
from it one after the other (`getElem?_ancestors`), each shorter than the one before.
-/

namespace Keychord.KeySequence

variable {s p : KeySequence} {d d' : String}

/-! ## Descriptions -/

/-- The chords of a text stay the first ones when more is written behind a space. -/
theorem prefix_of_parse_append_space (hp : parse d = .ok p)
    (hs : parse (d ++ " " ++ d') = .ok s) : p.chords <+: s.chords := by
  obtain ⟨hFirst, -⟩ := parse_eq_ok_iff.mp hp
  obtain ⟨hAll, -⟩ := parse_eq_ok_iff.mp hs
  rw [← mapM_eq_ok_iff] at hFirst hAll
  rw [parts_append_space, List.mapM_append, hFirst] at hAll
  cases hMore : (parts d').mapM Chord.parse with
  | error e =>
    rw [hMore] at hAll
    cases hAll
  | ok more =>
    rw [hMore] at hAll
    exact ⟨more, Except.ok.inj hAll⟩

theorem Writable.prefix_iff_description (hp : p.Writable) (hs : s.Writable) :
    p.chords <+: s.chords ↔
      s.description = p.description ∨ ∃ more, s.description = p.description ++ " " ++ more := by
  constructor
  · rintro ⟨more, hChords⟩
    by_cases hNil : more = []
    · rw [hNil, List.append_nil] at hChords
      exact Or.inl (congrArg description (KeySequence.ext hChords.symm))
    · obtain rfl : s = ⟨p.chords ++ more⟩ := KeySequence.ext hChords.symm
      exact Or.inr ⟨description ⟨more⟩, description_append hp.ne_nil hNil⟩
  · rintro (hSame | ⟨more, hMore⟩)
    · rw [hs.eq_of_description hp hSame]
    · have hParse := hs.parse_description
      rw [hMore] at hParse
      exact prefix_of_parse_append_space hp.parse_description hParse

/-! ## Parents -/

/-- The walk goes to one parent after the other, and stops where there is none. -/
theorem getElem?_ancestors (s : KeySequence) (n : Nat) :
    s.ancestors[n]? = (Option.bind · parent)^[n + 1] (some s) := by
  fun_induction ancestors s generalizing n with
  | case1 s hParent =>
    rw [Function.iterate_succ_apply, Option.bind_some, hParent]
    exact (Function.iterate_fixed rfl n).symm
  | case2 s p hParent ih =>
    rw [Function.iterate_succ_apply, Option.bind_some, hParent]
    cases n with
    | zero => rfl
    | succ n => exact ih n

theorem pairwise_ancestors (s : KeySequence) :
    s.ancestors.Pairwise fun p q => q.length < p.length := by
  fun_induction ancestors s with
  | case1 s hParent => exact List.Pairwise.nil
  | case2 s p hParent ih =>
    have hShorter : ∀ q ∈ p.ancestors, q.length < p.length := by
      intro q hq
      exact (mem_ancestors.mp hq).2.length_lt
    exact ih.cons hShorter

theorem nodup_ancestors (s : KeySequence) : s.ancestors.Nodup := by
  refine s.pairwise_ancestors.imp ?_
  rintro p q hLess rfl
  exact absurd hLess (Nat.lt_irrefl p.length)

/-- Of sequences that are read from a text, one begins with another exactly if its description is
that of the other or goes on from it behind a space.  From such a sequence the parents come to an
end, and they are all the others that it begins with: each of them comes once, the longest first. -/
theorem startsWith_iff_description (hs : ∃ d, parse d = .ok s) :
    (∀ p : KeySequence, (∃ d, parse d = .ok p) →
      (s.startsWith p = true ↔
        s.description = p.description ∨ ∃ more, s.description = p.description ++ " " ++ more)) ∧
    (∀ n, s.ancestors[n]? = (Option.bind · parent)^[n + 1] (some s)) ∧
    (∀ p, p ∈ s.ancestors ↔ (∃ d, parse d = .ok p) ∧ p ≠ s ∧ s.startsWith p = true) ∧
    s.ancestors.Nodup ∧ s.ancestors.Pairwise fun p q => q.length < p.length := by
  have hWritable := exists_parse_iff.mp hs
  refine ⟨fun p hp => ?_, s.getElem?_ancestors, fun p => ?_, s.nodup_ancestors,
    s.pairwise_ancestors⟩
  · rw [startsWith_iff]
    exact (exists_parse_iff.mp hp).prefix_iff_description hWritable
  · rw [mem_ancestors, exists_parse_iff, startsWith_iff]
    constructor
    · rintro ⟨hNil, hPrefix⟩
      exact ⟨hPrefix.writable hNil hWritable, hPrefix.2, hPrefix.1⟩
    · rintro ⟨hp, hNe, hPrefix⟩
      exact ⟨hp.ne_nil, hPrefix, hNe⟩

/-- A sequence whose text begins within a token of another one does not begin that one. -/
theorem startsWith_iff_description_within_token :
    let s : KeySequence := ⟨[⟨.control, "xy"⟩, ⟨.controlMeta, "x"⟩]⟩
    let p : KeySequence := ⟨[⟨.control, "x"⟩]⟩
    let q : KeySequence := ⟨[⟨.control, "xy"⟩]⟩
    parse "C-xy  M-C-x" = .ok s ∧ parse "C-x" = .ok p ∧ parse "C-xy" = .ok q ∧
    ¬ (s.description = p.description ∨ ∃ more, s.description = p.description ++ " " ++ more) ∧
    (s.description = q.description ∨ ∃ more, s.description = q.description ++ " " ++ more) ∧
    s.ancestors[0]? = some q ∧ s.ancestors[1]? = none ∧ p ∉ s.ancestors := by
  intro s p q
  have hs : parse "C-xy  M-C-x" = .ok s := by decide +kernel
  have hp : parse "C-x" = .ok p := by decide +kernel
  have hq : parse "C-xy" = .ok q := by decide +kernel
  have hNot : ¬ s.startsWith p = true := by decide
  obtain ⟨hText, hWalk, hMem, -⟩ := startsWith_iff_description ⟨_, hs⟩
  exact ⟨hs, hp, hq, fun h => hNot ((hText p ⟨_, hp⟩).mpr h),
    (hText q ⟨_, hq⟩).mp (by decide), hWalk 0, hWalk 1, fun h => hNot ((hMem p).mp h).2.2⟩

end Keychord.KeySequence
