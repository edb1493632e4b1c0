import Mathlib.Data.List.Forall2
import Mathlib.Data.Set.Operations
import Keychord.Sequence.Parser

/-!
# Descriptions read back

A token is writable if a description can hold it: a space would cut it, and a mark at its beginning
would be taken off.  `parse_description` reads a sequence of writable tokens back from its
description, and `writable_of_parse` finds no other sequences among those that `parse` gives.  So
two sequences that were read are equal as soon as their descriptions are
(`KeySequence.Writable.eq_of_description`), and a text is described by its `canonical` form.
-/

namespace Keychord

/-! ## Lists -/

theorem notMem_of_mem_splitOn {β : Type} [DecidableEq β] {x : β} {l part : List β}
    (h : part ∈ l.splitOn x) : x ∉ part := by
  induction l generalizing part with
  | nil =>
    rw [List.splitOn_nil, List.mem_singleton] at h
    subst h
    exact List.not_mem_nil
  | cons y l ih =>
    rw [List.splitOn_eq_splitOnP, List.splitOnP_cons_eq_if_modifyHead,
      ← List.splitOn_eq_splitOnP] at h
    split at h
    · rcases List.mem_cons.mp h with rfl | hPart
      · exact List.not_mem_nil
      · exact ih hPart
    · next hy =>
      obtain ⟨first, others, hSplit⟩ := List.exists_cons_of_ne_nil (List.splitOn_ne_nil x l)
      rw [hSplit, List.modifyHead_cons] at h
      rcases List.mem_cons.mp h with rfl | hPart
      · have hFirst : x ∉ first := ih (hSplit ▸ List.mem_cons_self)
        rintro (_ | _)
        · simp at hy
        · contradiction
      · exact ih (hSplit ▸ List.mem_cons_of_mem first hPart)

theorem mapM_eq_ok_iff {ε β γ : Type} {f : β → Except ε γ} {l : List β} {r : List γ} :
    l.mapM f = .ok r ↔ List.Forall₂ (fun x y => f x = .ok y) l r := by
  induction l generalizing r with
  | nil =>
    rw [List.mapM_nil, List.forall₂_nil_left_iff]
    exact ⟨fun h => (Except.ok.inj h).symm, fun h => h ▸ rfl⟩
  | cons x l ih =>
    rw [List.mapM_cons, List.forall₂_cons_left_iff]
    cases hx : f x with
    | error e => simp [bind, Except.bind]
    | ok y =>
      cases hl : l.mapM f with
      | error e =>
        have hNone : ∀ r', ¬ List.Forall₂ (fun x y => f x = .ok y) l r' := by
          intro r' hr'
          rw [← ih, hl] at hr'
          cases hr'
        simp [bind, Except.bind, hNone]
      | ok ys =>
        have hOnly : ∀ r', List.Forall₂ (fun x y => f x = .ok y) l r' ↔ ys = r' := by
          intro r'
          rw [← ih, hl, Except.ok.injEq]
        simp [bind, Except.bind, pure, Except.pure, hOnly, eq_comm]

theorem exists_mem_of_forall₂ {β γ : Type} {R : β → γ → Prop} {l : List β} {r : List γ}
    (h : List.Forall₂ R l r) : ∀ y ∈ r, ∃ x ∈ l, R x y := by
  induction h with
  | nil => exact fun y hy => absurd hy List.not_mem_nil
  | cons hxy _ ih =>
    intro z hz
    rcases List.mem_cons.mp hz with rfl | hz
    · exact ⟨_, List.mem_cons_self, hxy⟩
    · obtain ⟨x, hx, hR⟩ := ih z hz
      exact ⟨x, List.mem_cons_of_mem _ hx, hR⟩

/-! ## Writable tokens -/

/-- No mark stands at the beginning. -/
def Unmarked (text : List Char) : Prop := ¬ ['C', '-'] <+: text ∧ ¬ ['M', '-'] <+: text

/-- A token that a description can hold. -/
structure Writable (token : String) : Prop where
  ne_nil : token.toList ≠ []
  no_space : ' ' ∉ token.toList
  unmarked : Unmarked token.toList

instance (text : List Char) : Decidable (Unmarked text) := inferInstanceAs (Decidable (¬ _ ∧ ¬ _))

instance (token : String) : Decidable (Writable token) :=
  decidable_of_iff (token.toList ≠ [] ∧ ' ' ∉ token.toList ∧ Unmarked token.toList)
    ⟨fun h => ⟨h.1, h.2.1, h.2.2⟩, fun h => ⟨h.ne_nil, h.no_space, h.unmarked⟩⟩

/-- A sequence of one chord or more whose tokens a description can hold. -/
structure KeySequence.Writable (s : KeySequence) : Prop where
  ne_nil : s.chords ≠ []
  token : ∀ c ∈ s.chords, Keychord.Writable c.token

/-! ## Marks -/

theorem Modifier.strip_of_unmarked {text : List Char} (h : Unmarked text)
    (control metaHeld : Bool) :
    strip control metaHeld text = (ofFlags control metaHeld, text) := by
  unfold strip
  split
  · next rest => exact absurd (List.prefix_append ['C', '-'] rest) h.1
  · next rest => exact absurd (List.prefix_append ['M', '-'] rest) h.2
  · rfl

theorem Modifier.strip_text_append (m : Modifier) {text : List Char} (h : Unmarked text) :
    strip false false (m.text.toList ++ text) = (m, text) := by
  cases m with
  | plain => exact strip_of_unmarked h false false
  | metaKey =>
    change strip false true text = _
    exact strip_of_unmarked h false true
  | controlMeta =>
    change strip true true text = _
    exact strip_of_unmarked h true true
  | control =>
    change strip true false text = _
    exact strip_of_unmarked h true false

theorem Modifier.strip_suffix (control metaHeld : Bool) (text : List Char) :
    (strip control metaHeld text).2 <:+ text := by
  fun_induction strip control metaHeld text with
  | case1 _ metaHeld rest ih => exact ih.trans (List.suffix_append ['C', '-'] rest)
  | case2 control _ rest ih => exact ih.trans (List.suffix_append ['M', '-'] rest)
  | case3 => exact List.suffix_rfl

theorem Modifier.unmarked_strip (control metaHeld : Bool) (text : List Char) :
    Unmarked (strip control metaHeld text).2 := by
  fun_induction strip control metaHeld text with
  | case1 _ _ _ ih => exact ih
  | case2 _ _ _ ih => exact ih
  | case3 _ _ rest hControl hMeta =>
    refine ⟨?_, ?_⟩
    · rintro ⟨tail, rfl⟩
      exact hControl tail rfl
    · rintro ⟨tail, rfl⟩
      exact hMeta tail rfl

/-! ## Chords -/

theorem Chord.toList_text (c : Chord) : c.text.toList = c.modifier.text.toList ++ c.token.toList :=
  String.toList_append

theorem Chord.parse_text {c : Chord} (h : Writable c.token) : parse c.text.toList = .ok c := by
  have hStrip := Modifier.strip_text_append c.modifier h.unmarked
  unfold parse
  rw [c.toList_text, hStrip]
  split
  · next hEq => exact absurd (congrArg Prod.snd hEq) h.ne_nil
  · next hEq =>
    obtain ⟨rfl, rfl⟩ := Prod.mk.inj hEq
    rw [String.ofList_toList]

theorem Chord.writable_of_parse {part : List Char} {c : Chord} (hSpace : ' ' ∉ part)
    (h : parse part = .ok c) : Writable c.token := by
  have hSuffix := Modifier.strip_suffix false false part
  have hUnmarked := Modifier.unmarked_strip false false part
  unfold parse at h
  split at h
  · cases h
  · next modifier token hToken hEq =>
    rw [hEq] at hSuffix hUnmarked
    obtain rfl := Except.ok.inj h
    refine ⟨?_, ?_, ?_⟩ <;> simp only [String.toList_ofList]
    · exact hToken
    · exact fun hMem => hSpace (hSuffix.subset hMem)
    · exact hUnmarked

theorem Chord.text_ne_nil {c : Chord} (h : Writable c.token) : c.text.toList ≠ [] := by
  rw [c.toList_text]
  exact List.append_ne_nil_of_right_ne_nil _ h.ne_nil

theorem Modifier.space_notMem_text (m : Modifier) : ' ' ∉ m.text.toList := by
  cases m <;> decide

theorem Chord.space_notMem_text {c : Chord} (h : Writable c.token) : ' ' ∉ c.text.toList := by
  rw [c.toList_text, List.mem_append]
  exact fun hMem => hMem.elim c.modifier.space_notMem_text h.no_space

/-! ## Sequences -/

namespace KeySequence

theorem parse_eq_ok_iff {d : String} {s : KeySequence} :
    parse d = .ok s ↔ List.Forall₂ (fun part c => Chord.parse part = .ok c) (parts d) s.chords ∧
      s.chords ≠ [] := by
  rw [← mapM_eq_ok_iff]
  unfold parse
  cases (parts d).mapM Chord.parse with
  | error e => simp [bind, Except.bind]
  | ok chords =>
    cases chords with
    | nil =>
      constructor
      · intro h
        cases h
      · rintro ⟨hChords, hNil⟩
        exact absurd (Except.ok.inj hChords).symm hNil
    | cons c cs =>
      constructor
      · intro h
        obtain rfl := Except.ok.inj h
        exact ⟨rfl, List.cons_ne_nil c cs⟩
      · rintro ⟨hChords, -⟩
        obtain ⟨chords⟩ := s
        obtain rfl := Except.ok.inj hChords
        rfl

theorem space_notMem_of_mem_parts {d : String} {part : List Char} (h : part ∈ parts d) :
    ' ' ∉ part := by
  have hSplit : part ∈ d.toList.splitOn ' ' := List.mem_of_mem_filter h
  exact notMem_of_mem_splitOn hSplit

theorem writable_of_parse {d : String} {s : KeySequence} (h : parse d = .ok s) : s.Writable := by
  obtain ⟨hParts, hChords⟩ := parse_eq_ok_iff.mp h
  refine ⟨hChords, fun c hc => ?_⟩
  obtain ⟨part, hPart, hParse⟩ := exists_mem_of_forall₂ hParts c hc
  exact Chord.writable_of_parse (space_notMem_of_mem_parts hPart) hParse

/-- The spaces of a description stand between its chords and nowhere else. -/
theorem Writable.parts_description {s : KeySequence} (h : s.Writable) :
    parts s.description = s.chords.map fun c => c.text.toList := by
  have hTexts : s.description.toList = [' '].intercalate (s.chords.map fun c => c.text.toList) := by
    rw [description, String.toList_intercalate, List.map_map]
    rfl
  have hSplit : s.description.toList.splitOn ' ' = s.chords.map fun c => c.text.toList := by
    rw [hTexts]
    refine List.splitOn_intercalate ' ' ?_ (by simpa using h.ne_nil)
    intro text hText
    obtain ⟨c, hc, rfl⟩ := List.mem_map.mp hText
    exact Chord.space_notMem_text (h.token c hc)
  rw [parts, hSplit, List.filter_eq_self]
  intro text hText
  obtain ⟨c, hc, rfl⟩ := List.mem_map.mp hText
  simpa using Chord.text_ne_nil (h.token c hc)

theorem Writable.parse_description {s : KeySequence} (h : s.Writable) :
    parse s.description = .ok s := by
  rw [parse_eq_ok_iff, h.parts_description, List.forall₂_map_left_iff, List.forall₂_same]
  exact ⟨fun c hc => Chord.parse_text (h.token c hc), h.ne_nil⟩

theorem Writable.eq_of_description {s t : KeySequence} (hs : s.Writable) (ht : t.Writable)
    (h : s.description = t.description) : s = t := by
  have hParse := hs.parse_description
  rw [h, ht.parse_description] at hParse
  exact (Except.ok.inj hParse).symm

/-- Writable sequences are the only ones that are read from a text. -/
theorem exists_parse_iff {s : KeySequence} : (∃ d, parse d = .ok s) ↔ s.Writable := by
  constructor
  · rintro ⟨d, hParse⟩
    exact writable_of_parse hParse
  · intro hs
    exact ⟨s.description, hs.parse_description⟩

/-- The description of the sequence that a text reads as. -/
def canonical (d : String) : Except KeymapError String := (parse d).map description

theorem canonical_of_parse {d : String} {s : KeySequence} (h : parse d = .ok s) :
    canonical d = .ok s.description := by
  rw [canonical, h]
  rfl

example : canonical "C-x  M-C--" = .ok "C-x C-M--" := by cbv

/-- A sequence is read back from its description exactly if it is writable, and these are exactly
the sequences that any text reads as.  So a canonical description is its own, and among the
sequences that are read no two share one. -/
theorem parse_description_eq_ok_iff :
    (∀ s : KeySequence, parse s.description = .ok s ↔ s.Writable) ∧
    (∀ s : KeySequence, (∃ d, parse d = .ok s) ↔ s.Writable) ∧
    (∀ d, canonical d >>= canonical = canonical d) ∧
    Set.InjOn description {s | ∃ d, parse d = .ok s} := by
  refine ⟨fun s => ⟨writable_of_parse, Writable.parse_description⟩, fun s => exists_parse_iff,
    ?_, ?_⟩
  · intro d
    cases hParse : parse d with
    | error e =>
      rw [canonical, hParse]
      rfl
    | ok s =>
      rw [canonical_of_parse hParse]
      exact canonical_of_parse (writable_of_parse hParse).parse_description
  · intro s hs t ht he
    exact (exists_parse_iff.mp hs).eq_of_description (exists_parse_iff.mp ht) he

end KeySequence

end Keychord
