import Keychord.Proofs.Keymap.History

/-!
# Refused bindings

A description that reads as a sequence is refused exactly if a bound sequence goes on beyond it or
it goes on beyond a bound one.  `check_of_below`, `check_of_above` and `check_of_free` say what the
checks answer in the three cases, and what they name as the other sequence of the conflict: the
first description below, or the only bound sequence above.
-/

namespace Keychord.Keymap.History

variable {α : Type}

/-- A bound sequence goes on beyond a given one, or the other way round. -/
def Conflicts (h : History α) (s : KeySequence) : Prop :=
  ∃ t ∈ h.domain, s.ProperPrefix t ∨ t.ProperPrefix s

instance (h : History α) (s : KeySequence) : Decidable (h.Conflicts s) :=
  inferInstanceAs (Decidable (∃ t ∈ h.domain, _))

/-- The descriptions of the bound sequences that go on beyond a given one. -/
def textsBelow (h : History α) (s : KeySequence) : Set String :=
  {text | ∃ t ∈ h.domain, s.ProperPrefix t ∧ t.description = text}

/-- The two texts that are named when a sequence is refused.  The second reads as a sequence that
properly begins the one that the first reads as.  One of them is the sequence that is refused; the
other is bound, and is the least description below it or belongs to the only bound sequence above
it. -/
structure Names (h : History α) (s : KeySequence) (sequence ancestor : String) : Prop where
  begins : ∃ t u, KeySequence.parse sequence = .ok t ∧ KeySequence.parse ancestor = .ok u ∧
    u.ProperPrefix t
  source :
    (ancestor = s.description ∧ h.keymap.firstUnder? s = some sequence ∧
      sequence ∈ h.keymap.descriptions ∧ IsLeast (h.textsBelow s) sequence) ∨
    (sequence = s.description ∧ ancestor ∈ h.keymap.descriptions ∧
      ∃ t ∈ h.domain, t.description = ancestor ∧ ∀ u ∈ h.domain, u.ProperPrefix s ↔ u = t)

namespace Sound

variable {h : History α} {s : KeySequence}

theorem startsWith_of_mem (hSound : h.Sound) {t : KeySequence} (ht : t ∈ h.domain) :
    (match KeySequence.parse t.description with
      | .ok u => u.startsWith s
      | .error _ => false) = true ↔ s.chords <+: t.chords := by
  rw [(hSound.writable t ht).parse_description]
  exact KeySequence.startsWith_iff

theorem exists_firstUnder? (hSound : h.Sound) (hBelow : ∃ t ∈ h.domain, s.ProperPrefix t) :
    ∃ t ∈ h.domain, h.keymap.firstUnder? s = some t.description ∧ s.ProperPrefix t ∧
      IsLeast (h.textsBelow s) t.description := by
  obtain ⟨t₀, ht₀, hPrefix₀⟩ := hBelow
  have hFree : s ∉ h.domain := fun hs => hSound.prefixFree s hs t₀ ht₀ hPrefix₀
  have hProper : ∀ t ∈ h.domain, s.chords <+: t.chords → s.ProperPrefix t := by
    intro t ht hPrefix
    refine ⟨hPrefix, ?_⟩
    rintro rfl
    exact hFree ht
  cases hFind : h.keymap.firstUnder? s with
  | none =>
    have hMem := (hSound.descriptions t₀.description).mpr ⟨t₀, ht₀, rfl⟩
    exact absurd ((hSound.startsWith_of_mem ht₀).mpr hPrefix₀.1)
      (List.find?_eq_none.mp hFind t₀.description hMem)
  | some text =>
    obtain ⟨⟨hMem, hText⟩, hLower⟩ := isLeast_of_find? hSound.ordered hFind
    obtain ⟨t, ht, rfl⟩ := (hSound.descriptions text).mp hMem
    have hPrefix := hProper t ht ((hSound.startsWith_of_mem ht).mp hText)
    refine ⟨t, ht, rfl, hPrefix, ⟨t, ht, hPrefix, rfl⟩, ?_⟩
    rintro _ ⟨u, hu, hsu, rfl⟩
    exact hLower ⟨(hSound.descriptions u.description).mpr ⟨u, hu, rfl⟩,
      (hSound.startsWith_of_mem hu).mpr hsu.1⟩

/-- Among the bound sequences only one properly begins a given one. -/
theorem eq_of_properPrefix (hSound : h.Sound) {t u : KeySequence} (ht : t ∈ h.domain)
    (hu : u ∈ h.domain) (hts : t.ProperPrefix s) (hus : u.ProperPrefix s) : u = t := by
  rcases hus.trichotomy hts with he | hut | htu
  · exact he
  · exact absurd hut (hSound.prefixFree u hu t ht)
  · exact absurd htu (hSound.prefixFree t ht u hu)

/-- A sequence that bound ones go on beyond is refused with the first of these. -/
theorem check_of_below (hSound : h.Sound) (hs : s.Writable)
    (hBelow : ∃ t ∈ h.domain, s.ProperPrefix t) :
    ∃ sequence, h.keymap.check s = .error (.prefixConflict sequence s.description) ∧
      h.Names s sequence s.description := by
  obtain ⟨t, ht, hFind, hPrefix, hLeast⟩ := hSound.exists_firstUnder? hBelow
  refine ⟨t.description, ?_, ⟨t, s, ?_, hs.parse_description, hPrefix⟩, Or.inl ?_⟩
  · rw [check_of_mem_prefixes ((hSound.description_mem_prefixes hs).mpr hBelow), hFind]
    rfl
  · exact (hSound.writable t ht).parse_description
  · exact ⟨rfl, hFind, (hSound.descriptions t.description).mpr ⟨t, ht, rfl⟩, hLeast⟩

theorem check_of_above (hSound : h.Sound) (hs : s.Writable)
    (hAbove : ∃ t ∈ h.domain, t.ProperPrefix s) :
    ∃ ancestor, h.keymap.check s = .error (.prefixConflict s.description ancestor) ∧
      h.Names s s.description ancestor := by
  obtain ⟨t, ht, hPrefix⟩ := hAbove
  have hBelow : s.description ∉ h.keymap.prefixes := by
    rw [hSound.description_mem_prefixes hs]
    rintro ⟨u, hu, hsu⟩
    exact hSound.prefixFree t ht u hu (hPrefix.trans hsu)
  cases hFind : (s.ancestors.map KeySequence.description).find? (· ∈ h.keymap.descriptions) with
  | none =>
    have hAncestor := KeySequence.mem_ancestors.mpr ⟨(hSound.writable t ht).ne_nil, hPrefix⟩
    have hMem := (hSound.descriptions t.description).mpr ⟨t, ht, rfl⟩
    exact absurd (decide_eq_true hMem)
      (List.find?_eq_none.mp hFind t.description (List.mem_map_of_mem hAncestor))
  | some text =>
    obtain ⟨u, hAncestor, rfl⟩ := List.mem_map.mp (List.mem_of_find?_eq_some hFind)
    obtain ⟨hNil, hus⟩ := KeySequence.mem_ancestors.mp hAncestor
    have hMem : u.description ∈ h.keymap.descriptions := by
      simpa using List.find?_some hFind
    have hWritable := hus.writable hNil hs
    have hu := (hSound.description_mem_descriptions hWritable).mp hMem
    refine ⟨u.description, ?_, ⟨s, u, hs.parse_description, hWritable.parse_description, hus⟩,
      Or.inr ⟨rfl, hMem, u, hu, rfl, fun v hv => ⟨fun hvs => ?_, ?_⟩⟩⟩
    · rw [check, if_neg hBelow, hFind]
    · exact hSound.eq_of_properPrefix hu hv hus hvs
    · rintro rfl
      exact hus

theorem check_of_free (hSound : h.Sound) (hs : s.Writable) (hFree : ¬ h.Conflicts s) :
    h.keymap.check s = .ok () := by
  rw [check_eq_ok_iff, hSound.description_mem_prefixes hs]
  refine ⟨fun ⟨t, ht, hPrefix⟩ => hFree ⟨t, ht, Or.inl hPrefix⟩, ?_⟩
  intro t hAncestor hMem
  obtain ⟨hNil, hPrefix⟩ := KeySequence.mem_ancestors.mp hAncestor
  have ht := (hSound.description_mem_descriptions (hPrefix.writable hNil hs)).mp hMem
  exact hFree ⟨t, ht, Or.inr hPrefix⟩

end Sound

/-- After any run of calls, `bind` refuses a text that describes no sequence for that reason, and a
sequence exactly if it conflicts with a bound one.  It then names both sides of the conflict.  A
keymap is the same behind a binding that was refused. -/
theorem bind_refuses_conflicts_only (calls : List (String × α)) (d : String) (c : α) :
    let keymap := (run calls).keymap
    match KeySequence.parse d with
    | .error e => keymap.tryBind d c = (.error e, keymap)
    | .ok s =>
      if (run calls).Conflicts s then
        ∃ sequence ancestor,
          keymap.tryBind d c = (.error (.prefixConflict sequence ancestor), keymap) ∧
          (run calls).Names s sequence ancestor
      else keymap.tryBind d c = (.ok (), keymap.withBinding s c) := by
  have hSound := sound_run calls
  dsimp only
  rw [tryBind_eq]
  cases hParse : KeySequence.parse d with
  | error e => rfl
  | ok s =>
    have hs := KeySequence.writable_of_parse hParse
    dsimp only
    split
    · next hConflict =>
      obtain ⟨t, ht, hBelow | hAbove⟩ := hConflict
      · obtain ⟨sequence, hCheck, hNames⟩ := hSound.check_of_below hs ⟨t, ht, hBelow⟩
        exact ⟨sequence, s.description, by rw [hCheck], hNames⟩
      · obtain ⟨ancestor, hCheck, hNames⟩ := hSound.check_of_above hs ⟨t, ht, hAbove⟩
        exact ⟨s.description, ancestor, by rw [hCheck], hNames⟩
    · next hFree => rw [hSound.check_of_free hs hFree]

end Keychord.Keymap.History
