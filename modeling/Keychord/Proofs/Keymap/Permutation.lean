import Mathlib.Data.List.Pairwise
import Keychord.Proofs.Keymap.Conflict
import Keychord.Proofs.Keymap.Refinement

/-!
# Bindings in any order

`Keymap.ofList` makes bindings one after the other, and what is refused depends on what was bound
before.  Still the order does not matter: all bindings of a list are made exactly if the list is
`Compatible` (`ofList_eq_ok_iff`), which is said of its members alone, and a keymap that was made
without binding any sequence twice has each of them bound to the one command given for it
(`bound_run_eq_some_iff`).
-/

namespace Keychord.Keymap

variable {α : Type} {bindings : List (String × α)} {b : String × α} {s : KeySequence}

theorem bind_eq_ok_iff {k k' : Keymap α} {d : String} {c : α} :
    k.bind d c = .ok k' ↔
      ∃ s, KeySequence.parse d = .ok s ∧ k.check s = .ok () ∧ k' = k.withBinding s c := by
  unfold bind
  rw [tryBind_eq]
  cases KeySequence.parse d with
  | error e => simp [Except.map]
  | ok s =>
    dsimp only
    cases hCheck : k.check s with
    | error e => simp [Except.map, hCheck]
    | ok _ => simp [Except.map, hCheck, eq_comm]

/-! ## Bindings that go together -/

/-- The sequences that the descriptions of some bindings read as. -/
def sequences (bindings : List (String × α)) : Set KeySequence :=
  {s | ∃ b ∈ bindings, KeySequence.parse b.1 = .ok s}

theorem mem_sequences :
    s ∈ sequences bindings ↔ ∃ b ∈ bindings, KeySequence.parse b.1 = .ok s := Iff.rfl

/-- All descriptions read as sequences, and none of these properly begins another. -/
structure Compatible (bindings : List (String × α)) : Prop where
  parses : ∀ b ∈ bindings, ∃ s, KeySequence.parse b.1 = .ok s
  prefixFree : ∀ s ∈ sequences bindings, ∀ t ∈ sequences bindings, ¬ s.ProperPrefix t

theorem compatible_perm {bindings' : List (String × α)} (h : bindings.Perm bindings') :
    Compatible bindings ↔ Compatible bindings' := by
  have hSequences : sequences bindings = sequences bindings' := by
    ext s
    simp only [mem_sequences, h.mem_iff]
  constructor
  · intro hBindings
    exact ⟨fun b hb => hBindings.parses b (h.mem_iff.mpr hb), hSequences ▸ hBindings.prefixFree⟩
  · intro hBindings
    exact ⟨fun b hb => hBindings.parses b (h.mem_iff.mp hb), hSequences ▸ hBindings.prefixFree⟩

theorem mem_sequences_concat (hParse : KeySequence.parse b.1 = .ok s) {t : KeySequence} :
    t ∈ sequences (bindings ++ [b]) ↔ t = s ∨ t ∈ sequences bindings := by
  simp only [mem_sequences, List.mem_append, List.mem_singleton, or_and_right,
    exists_or, exists_eq_left, hParse, Except.ok.injEq]
  rw [or_comm, eq_comm]

theorem compatible_concat_iff :
    Compatible (bindings ++ [b]) ↔ Compatible bindings ∧
      ∃ s, KeySequence.parse b.1 = .ok s ∧
        ∀ t ∈ sequences bindings, ¬ s.ProperPrefix t ∧ ¬ t.ProperPrefix s := by
  constructor
  · intro h
    obtain ⟨s, hParse⟩ := h.parses b (by simp)
    have hMem : ∀ t, t ∈ sequences (bindings ++ [b]) ↔ t = s ∨ t ∈ sequences bindings :=
      fun t => mem_sequences_concat hParse
    refine ⟨⟨fun b' hb' => h.parses b' (List.mem_append_left _ hb'), ?_⟩, s, hParse, ?_⟩
    · intro t ht u hu
      exact h.prefixFree t ((hMem t).mpr (Or.inr ht)) u ((hMem u).mpr (Or.inr hu))
    · intro t ht
      have hs' := (hMem s).mpr (Or.inl rfl)
      have ht' := (hMem t).mpr (Or.inr ht)
      exact ⟨h.prefixFree s hs' t ht', h.prefixFree t ht' s hs'⟩
  · rintro ⟨h, s, hParse, hFree⟩
    refine ⟨fun b' hb' => ?_, fun t ht u hu => ?_⟩
    · rcases List.mem_append.mp hb' with hb' | hb'
      · exact h.parses b' hb'
      · rw [List.mem_singleton.mp hb']
        exact ⟨s, hParse⟩
    · rw [mem_sequences_concat hParse] at ht hu
      rcases ht with rfl | ht
      · rcases hu with rfl | hu
        · exact KeySequence.ProperPrefix.irrefl u
        · exact (hFree u hu).1
      · rcases hu with rfl | hu
        · exact (hFree t ht).2
        · exact h.prefixFree t ht u hu

namespace History

/-! ## Runs of compatible bindings -/

theorem Sound.check_eq_ok_iff_free {h : History α} (hSound : h.Sound) (hs : s.Writable) :
    h.keymap.check s = .ok () ↔ ¬ h.Conflicts s := by
  constructor
  · intro hCheck
    rintro ⟨t, ht, hBelow | hAbove⟩
    · obtain ⟨sequence, hRefused, -⟩ := hSound.check_of_below hs ⟨t, ht, hBelow⟩
      rw [hRefused] at hCheck
      cases hCheck
    · obtain ⟨ancestor, hRefused, -⟩ := hSound.check_of_above hs ⟨t, ht, hAbove⟩
      rw [hRefused] at hCheck
      cases hCheck
  · exact hSound.check_of_free hs

/-- After a run whose bindings were all made, the next one is made if it is in no one's way. -/
theorem check_run_eq_ok_iff (hDomain : ∀ t, t ∈ (run bindings).domain ↔ t ∈ sequences bindings)
    (hParse : KeySequence.parse b.1 = .ok s) :
    (run bindings).keymap.check s = .ok () ↔
      ∀ t ∈ sequences bindings, ¬ s.ProperPrefix t ∧ ¬ t.ProperPrefix s := by
  rw [(sound_run bindings).check_eq_ok_iff_free (KeySequence.writable_of_parse hParse)]
  simp only [Conflicts, hDomain, not_exists, not_and, not_or]

theorem run_concat_of_check (hParse : KeySequence.parse b.1 = .ok s)
    (hCheck : (run bindings).keymap.check s = .ok ()) :
    run (bindings ++ [b]) = (run bindings).make s b.2 := by
  have hRun : run (bindings ++ [b]) = (run bindings).call b.1 b.2 := by
    rw [run, List.foldl_append]
    rfl
  rw [hRun, call_eq, hParse]
  dsimp only
  rw [hCheck]

theorem mem_domain_run (h : Compatible bindings) :
    ∀ t, t ∈ (run bindings).domain ↔ t ∈ sequences bindings := by
  induction bindings using List.reverseRecOn with
  | nil =>
    intro t
    simp [run, domain, sequences]
  | append_singleton bindings b ih =>
    intro t
    obtain ⟨hBefore, s, hParse, hFree⟩ := compatible_concat_iff.mp h
    have hDomain := ih hBefore
    have hCheck := (check_run_eq_ok_iff hDomain hParse).mpr hFree
    rw [run_concat_of_check hParse hCheck, mem_domain_make, hDomain, mem_sequences_concat hParse]

/-- A list of bindings makes a keymap exactly if the bindings are compatible. -/
theorem ofList_eq_ok_iff {k : Keymap α} :
    ofList bindings = .ok k ↔ Compatible bindings ∧ k = (run bindings).keymap := by
  induction bindings using List.reverseRecOn generalizing k with
  | nil =>
    have hNone : Compatible ([] : List (String × α)) :=
      ⟨fun b hb => absurd hb List.not_mem_nil, by rintro s ⟨b, hb, -⟩; cases hb⟩
    constructor
    · intro h
      exact ⟨hNone, (Except.ok.inj h).symm⟩
    · rintro ⟨-, rfl⟩
      rfl
  | append_singleton bindings b ih =>
    -- The last binding is made in the keymap of the others, which the induction knows.
    have hLast : ofList (bindings ++ [b]) = .ok k ↔
        ∃ k', ofList bindings = .ok k' ∧ k'.bind b.1 b.2 = .ok k := by
      unfold ofList
      simp only [List.foldlM_append, List.foldlM_cons, List.foldlM_nil, bind_pure]
      cases List.foldlM (fun k b => Keymap.bind k b.1 b.2) (empty : Keymap α) bindings with
      | error e => exact iff_of_false (by rintro ⟨⟩) (by rintro ⟨k', ⟨⟩, -⟩)
      | ok k' => exact ⟨fun h => ⟨k', rfl, h⟩, by rintro ⟨_, ⟨⟩, h⟩; exact h⟩
    rw [hLast, compatible_concat_iff]
    constructor
    · rintro ⟨k', hList, hBind⟩
      obtain ⟨hBefore, rfl⟩ := ih.mp hList
      obtain ⟨s, hParse, hCheck, rfl⟩ := bind_eq_ok_iff.mp hBind
      have hFree := (check_run_eq_ok_iff (mem_domain_run hBefore) hParse).mp hCheck
      exact ⟨⟨hBefore, s, hParse, hFree⟩, by rw [run_concat_of_check hParse hCheck]; rfl⟩
    · rintro ⟨⟨hBefore, s, hParse, hFree⟩, rfl⟩
      have hCheck := (check_run_eq_ok_iff (mem_domain_run hBefore) hParse).mpr hFree
      refine ⟨(run bindings).keymap, ih.mpr ⟨hBefore, rfl⟩, bind_eq_ok_iff.mpr ?_⟩
      exact ⟨s, hParse, hCheck, by rw [run_concat_of_check hParse hCheck]; rfl⟩

/-! ## What is bound in the end -/

/-- The descriptions of two bindings do not read as the same sequence. -/
def Apart (b b' : String × α) : Prop :=
  ∀ s, KeySequence.parse b.1 = .ok s → KeySequence.parse b'.1 ≠ .ok s

/-- Where no sequence is bound twice, every sequence has the command that the list gives it. -/
theorem bound_run_eq_some_iff (h : Compatible bindings) (hApart : bindings.Pairwise Apart) {c : α} :
    (run bindings).bound s = some c ↔
      ∃ b ∈ bindings, KeySequence.parse b.1 = .ok s ∧ b.2 = c := by
  induction bindings using List.reverseRecOn with
  | nil => simp [run, bound]
  | append_singleton bindings b ih =>
    obtain ⟨hBefore, t, hParse, hFree⟩ := compatible_concat_iff.mp h
    obtain ⟨hApartBefore, -, hLast⟩ := List.pairwise_append.mp hApart
    have hCheck := (check_run_eq_ok_iff (mem_domain_run hBefore) hParse).mpr hFree
    rw [run_concat_of_check hParse hCheck, bound_make]
    by_cases hs : s = t
    · subst hs
      have hNotBefore : ∀ b' ∈ bindings, KeySequence.parse b'.1 ≠ .ok s := by
        intro b' hb' hParse'
        exact hLast b' hb' b List.mem_cons_self s hParse' hParse
      simp only [if_true, Option.some.injEq, List.mem_append, List.mem_singleton]
      constructor
      · intro hc
        exact ⟨b, Or.inr rfl, hParse, hc⟩
      · rintro ⟨b', hb' | rfl, hParse', hc⟩
        · exact absurd hParse' (hNotBefore b' hb')
        · exact hc
    · rw [if_neg hs, ih hBefore hApartBefore]
      simp only [List.mem_append, List.mem_singleton]
      constructor
      · rintro ⟨b', hb', hParse', hc⟩
        exact ⟨b', Or.inl hb', hParse', hc⟩
      · rintro ⟨b', hb' | rfl, hParse', hc⟩
        · exact ⟨b', hb', hParse', hc⟩
        · rw [hParse] at hParse'
          exact absurd (Except.ok.inj hParse').symm hs

/-- Keymaps with the same sequences bound to the same commands cannot be told apart. -/
theorem Sound.alike {h h' : History α} (hSound : h.Sound) (hSound' : h'.Sound)
    (hBound : ∀ s, h.bound s = h'.bound s) :
    (∀ d, h.keymap.resolve d = h'.keymap.resolve d) ∧ h.keymap.size = h'.keymap.size ∧
      h.keymap.descriptions = h'.keymap.descriptions := by
  have hDomain : h.domain = h'.domain := by
    ext s
    rw [mem_domain, mem_domain, hBound]
  refine ⟨fun d => ?_, ?_, ?_⟩
  · rw [hSound.resolve_eq_answer, hSound'.resolve_eq_answer, answer, answer]
    simp only [hBound, hDomain]
  · rw [hSound.size_eq_card, hSound'.size_eq_card, hDomain]
  · rw [hSound.descriptions_eq_sort, hSound'.descriptions_eq_sort, hDomain]

/-- A keymap is made from a list of bindings exactly if all descriptions read as sequences and none
of these properly begins another; so it is made from every permutation of the list or from none.  If
no two descriptions read as the same sequence, the keymaps that are made from two permutations
answer alike to every text, and have the same size and the same descriptions. -/
theorem ofList_perm (bindings : List (String × α)) :
    ((∃ k, ofList bindings = .ok k) ↔ Compatible bindings) ∧
    ((∃ k, ofList bindings = .ok k) ↔
      ∀ l, bindings.Perm l → ∃ k, ofList l = .ok k) ∧
    (bindings.Pairwise Apart → ∀ l l' k k', bindings.Perm l → bindings.Perm l' →
      ofList l = .ok k → ofList l' = .ok k' →
        (∀ d, k.resolve d = k'.resolve d) ∧ k.size = k'.size ∧
          k.descriptions = k'.descriptions) := by
  have hMade (l : List (String × α)) : (∃ k, ofList l = .ok k) ↔ Compatible l := by
    simp only [ofList_eq_ok_iff, exists_and_left, exists_eq, and_true]
  refine ⟨hMade bindings, ?_, ?_⟩
  · constructor
    · intro hBindings l hPerm
      exact (hMade l).mpr ((compatible_perm hPerm).mp ((hMade bindings).mp hBindings))
    · intro hAll
      exact hAll bindings (List.Perm.refl bindings)
  · intro hApart l l' k k' hPerm hPerm' hList hList'
    obtain ⟨hCompatible, rfl⟩ := ofList_eq_ok_iff.mp hList
    obtain ⟨hCompatible', rfl⟩ := ofList_eq_ok_iff.mp hList'
    have hSymm : ∀ {b b' : String × α}, Apart b b' → Apart b' b :=
      fun h s hParse' hParse => h s hParse hParse'
    have hBound : ∀ s, (run l).bound s = (run l').bound s := by
      intro s
      refine Option.ext fun c => ?_
      rw [bound_run_eq_some_iff hCompatible (hPerm.pairwise hApart hSymm),
        bound_run_eq_some_iff hCompatible' (hPerm'.pairwise hApart hSymm)]
      simp only [← hPerm.mem_iff, ← hPerm'.mem_iff]
    exact (sound_run l).alike (sound_run l') hBound

/-- Two sequences that begin alike can be bound in either order. -/
theorem ofList_perm_save_find :
    let save := ("C-x C-s", "save")
    let find := ("C-x 4 f", "find")
    ∃ k k', ofList [save, find] = .ok k ∧ ofList [find, save] = .ok k' ∧
      (∀ d, k.resolve d = k'.resolve d) ∧ k.size = k'.size ∧
      k.descriptions = k'.descriptions := by
  intro save find
  have hSave : KeySequence.parse save.1 = .ok ⟨[⟨.control, "x"⟩, ⟨.control, "s"⟩]⟩ := by
    decide +kernel
  have hFind : KeySequence.parse find.1 =
      .ok ⟨[⟨.control, "x"⟩, ⟨.plain, "4"⟩, ⟨.plain, "f"⟩]⟩ := by
    decide +kernel
  have hApart : [save, find].Pairwise Apart := by
    refine List.pairwise_pair.mpr fun s hs hs' => ?_
    rw [hSave] at hs
    rw [hFind, ← hs] at hs'
    exact absurd hs' (by decide)
  have hSwap : [save, find].Perm [find, save] := List.Perm.swap find save []
  obtain ⟨-, hAll, hAlike⟩ := ofList_perm [save, find]
  have hMade : (ofList [save, find]).isOk = true := by decide +kernel
  cases hk : ofList [save, find] with
  | error e =>
    rw [hk] at hMade
    cases hMade
  | ok k =>
    obtain ⟨k', hk'⟩ := hAll.mp ⟨k, hk⟩ [find, save] hSwap
    exact ⟨k, k', rfl, hk', hAlike hApart _ _ k k' (List.Perm.refl _) hSwap hk hk'⟩

end History

end Keychord.Keymap
