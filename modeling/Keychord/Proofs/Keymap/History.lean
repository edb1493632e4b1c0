import Mathlib.Data.Finset.Dedup
import Keychord.Proofs.Keymap.Table
import Keychord.Proofs.Sequence.Ancestors

/-!
# Keymaps and what was bound in them

A `History` goes through calls of `bind` beside a keymap and notes which sequences were given which
commands.  `Sound` says how the two tables of texts stand to that note: the bindings are the
descriptions of the bound sequences, the prefixes are the descriptions of everything that properly
begins one of them, and no bound sequence properly begins another.  Every call keeps it
(`Sound.call`), so it holds after every run (`sound_run`).
-/

namespace Keychord.Keymap

variable {α : Type}

/-! ## The checks of `bind` -/

theorem tryBind_eq (k : Keymap α) (d : String) (c : α) :
    k.tryBind d c =
      match KeySequence.parse d with
      | .error e => (.error e, k)
      | .ok s =>
        match k.check s with
        | .error e => (.error e, k)
        | .ok _ => (.ok (), k.withBinding s c) := by
  unfold tryBind
  cases hParse : KeySequence.parse d with
  | error e =>
    unfold bindM
    rw [hParse]
    rfl
  | ok s =>
    have hRun : (bindM d c).run.run k = (MonadExcept.ofExcept (k.check s) >>=
        fun _ => modify fun k => k.withBinding s c :
          ExceptT KeymapError (StateM (Keymap α)) Unit).run.run k := by
      unfold bindM
      rw [hParse]
      rfl
    rw [hRun]
    dsimp only
    cases k.check s with
    | error e => rfl
    | ok _ => rfl

theorem check_of_mem_prefixes {k : Keymap α} {s : KeySequence} (h : s.description ∈ k.prefixes) :
    k.check s = .error (.prefixConflict ((k.firstUnder? s).getD "") s.description) := by
  rw [check, if_pos h]

/-- A sequence passes if it is not known as a prefix and none of its ancestors is bound. -/
theorem check_eq_ok_iff {k : Keymap α} {s : KeySequence} :
    k.check s = .ok () ↔
      s.description ∉ k.prefixes ∧ ∀ t ∈ s.ancestors, t.description ∉ k.descriptions := by
  by_cases hPrefix : s.description ∈ k.prefixes
  · rw [check_of_mem_prefixes hPrefix]
    exact iff_of_false (by rintro ⟨⟩) fun h => h.1 hPrefix
  · rw [check, if_neg hPrefix]
    have hNone : (s.ancestors.map KeySequence.description).find? (· ∈ k.descriptions) = none ↔
        ∀ t ∈ s.ancestors, t.description ∉ k.descriptions := by
      simp only [List.find?_eq_none, List.forall_mem_map, decide_eq_true_eq]
    rw [← hNone]
    split
    · next hFind =>
      rw [hFind]
      exact iff_of_false (by rintro ⟨⟩) (by rintro ⟨-, ⟨⟩⟩)
    · next hFind => exact iff_of_true rfl ⟨hPrefix, hFind⟩

theorem mem_foldr_insert {text : String} {l texts : List String} :
    text ∈ l.foldr List.insert texts ↔ text ∈ l ∨ text ∈ texts := by
  induction l with
  | nil => simp
  | cons other l ih =>
    rw [List.foldr_cons, List.mem_insert_iff, ih, List.mem_cons, or_assoc]

/-! ## Histories -/

/-- A keymap and the bindings that were made in it, the latest first. -/
structure History (α : Type) where
  keymap : Keymap α := {}
  made : List (KeySequence × α) := []

namespace History

/-- One call of `bind`.  The binding is noted if it was made. -/
def call (h : History α) (d : String) (c : α) : History α where
  keymap := (h.keymap.tryBind d c).2
  made :=
    match KeySequence.parse d, (h.keymap.tryBind d c).1 with
    | .ok s, .ok _ => (s, c) :: h.made
    | _, _ => h.made

/-- Calls of `bind`, one after the other, on the empty keymap. -/
def run (calls : List (String × α)) : History α := calls.foldl (fun h b => h.call b.1 b.2) {}

/-- The command of the last binding that was made for a sequence. -/
def bound (h : History α) (s : KeySequence) : Option α := h.made.lookup s

/-- The sequences that were bound. -/
def domain (h : History α) : Finset KeySequence := (h.made.map Prod.fst).toFinset

theorem mem_domain {h : History α} {s : KeySequence} :
    s ∈ h.domain ↔ ∃ c, h.bound s = some c := by
  rw [domain, List.mem_toFinset, bound, ← Option.isSome_iff_exists, List.lookup_isSome_iff,
    List.mem_map]
  refine exists_congr fun binding => and_congr_right fun _ => ?_
  rw [beq_iff_eq, eq_comm]

/-- A history after one more binding was made. -/
def make (h : History α) (s : KeySequence) (c : α) : History α where
  keymap := h.keymap.withBinding s c
  made := (s, c) :: h.made

theorem call_eq (h : History α) (d : String) (c : α) :
    h.call d c =
      match KeySequence.parse d with
      | .error _ => h
      | .ok s =>
        match h.keymap.check s with
        | .error _ => h
        | .ok _ => h.make s c := by
  unfold call
  rw [tryBind_eq]
  cases KeySequence.parse d with
  | error e => rfl
  | ok s =>
    dsimp only
    cases h.keymap.check s with
    | error e => rfl
    | ok _ => rfl

theorem mem_domain_make {h : History α} {s t : KeySequence} {c : α} :
    t ∈ (h.make s c).domain ↔ t = s ∨ t ∈ h.domain := by
  simp only [domain, make, List.map_cons, List.mem_toFinset, List.mem_cons]

theorem bound_make (h : History α) (s t : KeySequence) (c : α) :
    (h.make s c).bound t = if t = s then some c else h.bound t :=
  lookup_cons_eq_ite s t c h.made

/-- How the tables of a keymap stand to what was bound in it. -/
structure Sound (h : History α) : Prop where
  writable : ∀ s ∈ h.domain, s.Writable
  lookup : ∀ s : KeySequence, s.Writable → h.keymap.bindings.lookup s.description = h.bound s
  descriptions : ∀ text,
    text ∈ h.keymap.descriptions ↔ ∃ s ∈ h.domain, s.description = text
  prefixes : ∀ text,
    text ∈ h.keymap.prefixes ↔ ∃ t ∈ h.domain, text ∈ t.ancestors.map KeySequence.description
  ordered : h.keymap.descriptions.Pairwise (· < ·)
  prefixFree : ∀ s ∈ h.domain, ∀ t ∈ h.domain, ¬ s.ProperPrefix t

namespace Sound

variable {h : History α} {s : KeySequence}

theorem description_mem_descriptions (hSound : h.Sound) (hs : s.Writable) :
    s.description ∈ h.keymap.descriptions ↔ s ∈ h.domain := by
  rw [hSound.descriptions]
  constructor
  · rintro ⟨t, ht, he⟩
    rwa [← (hSound.writable t ht).eq_of_description hs he]
  · exact fun hMem => ⟨s, hMem, rfl⟩

/-- The table of prefixes knows a sequence by its text: what is found there properly begins a bound
sequence, because no other writable sequence has the same description. -/
theorem description_mem_prefixes (hSound : h.Sound) (hs : s.Writable) :
    s.description ∈ h.keymap.prefixes ↔ ∃ t ∈ h.domain, s.ProperPrefix t := by
  rw [hSound.prefixes]
  constructor
  · rintro ⟨t, ht, hText⟩
    obtain ⟨u, hu, he⟩ := List.mem_map.mp hText
    obtain ⟨hNil, hPrefix⟩ := KeySequence.mem_ancestors.mp hu
    have hWritable := hPrefix.writable hNil (hSound.writable t ht)
    exact ⟨t, ht, hWritable.eq_of_description hs he ▸ hPrefix⟩
  · rintro ⟨t, ht, hPrefix⟩
    exact ⟨t, ht, List.mem_map_of_mem (KeySequence.mem_ancestors.mpr ⟨hs.ne_nil, hPrefix⟩)⟩

theorem empty : Sound ({} : History α) where
  writable s hs := by simp [domain] at hs
  lookup _ _ := rfl
  descriptions text := by simp [domain, Keymap.descriptions]
  prefixes text := by simp [domain]
  ordered := List.Pairwise.nil
  prefixFree s hs := by simp [domain] at hs

/-- Both checks of `bind` together keep a sequence away from all bound ones that it begins or goes
on beyond. -/
theorem not_properPrefix_of_checks (hSound : h.Sound) (hs : s.Writable)
    (hPrefix : s.description ∉ h.keymap.prefixes)
    (hAncestors : ∀ t ∈ s.ancestors, t.description ∉ h.keymap.descriptions) :
    ∀ t ∈ h.domain, ¬ s.ProperPrefix t ∧ ¬ t.ProperPrefix s := by
  intro t ht
  have hWritable := hSound.writable t ht
  refine ⟨fun hst => ?_, fun hts => ?_⟩
  · exact hPrefix ((hSound.description_mem_prefixes hs).mpr ⟨t, ht, hst⟩)
  · have hMem := KeySequence.mem_ancestors.mpr ⟨hWritable.ne_nil, hts⟩
    exact hAncestors t hMem ((hSound.description_mem_descriptions hWritable).mpr ht)

theorem make (hSound : h.Sound) (c : α) (hs : s.Writable)
    (hPrefix : s.description ∉ h.keymap.prefixes)
    (hAncestors : ∀ t ∈ s.ancestors, t.description ∉ h.keymap.descriptions) :
    (h.make s c).Sound where
  writable t ht := by
    rcases mem_domain_make.mp ht with rfl | ht
    · exact hs
    · exact hSound.writable t ht
  lookup t ht := by
    have hSame : t.description = s.description ↔ t = s :=
      ⟨ht.eq_of_description hs, congrArg KeySequence.description⟩
    rw [bound_make, ← hSound.lookup t ht, ← if_congr hSame rfl rfl]
    exact lookup_insertBinding s.description t.description c h.keymap.bindings
  descriptions text := by
    have hText : text ∈ (h.make s c).keymap.descriptions ↔
        text = s.description ∨ text ∈ h.keymap.descriptions := mem_insertBinding
    rw [hText, hSound.descriptions, eq_comm]
    simp only [mem_domain_make, exists_eq_or_imp]
  prefixes text := by
    have hText : text ∈ (h.make s c).keymap.prefixes ↔
        text ∈ s.ancestors.map KeySequence.description ∨ text ∈ h.keymap.prefixes :=
      mem_foldr_insert
    simp only [hText, hSound.prefixes, mem_domain_make, exists_eq_or_imp]
  ordered := pairwise_insertBinding hSound.ordered
  prefixFree t ht u hu := by
    have hFree := hSound.not_properPrefix_of_checks hs hPrefix hAncestors
    rcases mem_domain_make.mp ht with rfl | hMem
    · rcases mem_domain_make.mp hu with rfl | hu
      · exact KeySequence.ProperPrefix.irrefl u
      · exact (hFree u hu).1
    · rcases mem_domain_make.mp hu with rfl | hu
      · exact (hFree t hMem).2
      · exact hSound.prefixFree t hMem u hu

theorem call (hSound : h.Sound) (d : String) (c : α) : (h.call d c).Sound := by
  rw [call_eq]
  cases hParse : KeySequence.parse d with
  | error e => exact hSound
  | ok s =>
    dsimp only
    cases hCheck : h.keymap.check s with
    | error e => exact hSound
    | ok _ =>
      obtain ⟨hPrefix, hAncestors⟩ := check_eq_ok_iff.mp hCheck
      exact hSound.make c (KeySequence.writable_of_parse hParse) hPrefix hAncestors

end Sound

/-- Every call keeps the tables in order, so they are in order after every run. -/
theorem sound_run (calls : List (String × α)) : (run calls).Sound := by
  induction calls using List.reverseRecOn with
  | nil => exact Sound.empty
  | append_singleton calls b ih =>
    rw [run, List.foldl_append]
    exact ih.call b.1 b.2

end History

end Keychord.Keymap
