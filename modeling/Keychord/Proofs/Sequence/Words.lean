import Mathlib.Data.List.Induction
import Keychord.Proofs.Sequence.RoundTrip

/-!
# The words of a description

A chord is added to a description behind a space (`description_push`).  Tokens can have spaces of
their own, so a description may have more words than the sequence has chords; it has no fewer if
every token shows something (`length_le_length_parts`), and a text that reads as a sequence has as
many words as that one has chords.
-/

namespace Keychord

/-- A text that is not all spaces. -/
def Visible (text : String) : Prop := ∃ c ∈ text.toList, c ≠ ' '

instance (text : String) : Decidable (Visible text) := List.decidableBEx _ text.toList

theorem exists_part_ne_nil {text : List Char} (h : ∃ c ∈ text, c ≠ ' ') :
    ∃ part ∈ text.splitOn ' ', part ≠ [] := by
  induction text with
  | nil =>
    obtain ⟨c, hc, -⟩ := h
    exact absurd hc List.not_mem_nil
  | cons first text ih =>
    rw [List.splitOn_cons_eq_if_modifyHead]
    by_cases hSpace : first = ' '
    · obtain ⟨c, hc, hShown⟩ := h
      have hLater : c ∈ text :=
        (List.mem_cons.mp hc).resolve_left fun he => hShown (he.trans hSpace)
      obtain ⟨part, hPart, hNil⟩ := ih ⟨c, hLater, hShown⟩
      rw [if_pos (by simpa using hSpace)]
      exact ⟨part, List.mem_cons_of_mem [] hPart, hNil⟩
    · obtain ⟨part, others, hSplit⟩ := List.exists_cons_of_ne_nil (List.splitOn_ne_nil ' ' text)
      rw [if_neg (by simpa using hSpace), hSplit, List.modifyHead_cons]
      exact ⟨first :: part, List.mem_cons_self, List.cons_ne_nil first part⟩

theorem Chord.visible_text {c : Chord} (h : Visible c.token) : Visible c.text := by
  obtain ⟨x, hx, hShown⟩ := h
  refine ⟨x, ?_, hShown⟩
  rw [c.toList_text]
  exact List.mem_append_right _ hx

namespace KeySequence

variable {s : KeySequence} {d : String}

/-- What stands before the next chord of a sequence. -/
def lead (s : KeySequence) : String := if s.isEmpty then "" else s.description ++ " "

theorem description_cons (first : Chord) (later : List Chord) :
    description ⟨first :: later⟩ = first.text ++ " ".intercalate ("" :: later.map Chord.text) := by
  rw [← String.intercalate_cons_append, String.append_empty]
  rfl

theorem description_append {before after : List Chord} (hBefore : before ≠ [])
    (hAfter : after ≠ []) :
    description ⟨before ++ after⟩ = description ⟨before⟩ ++ " " ++ description ⟨after⟩ := by
  have hTexts {chords : List Chord} (h : chords ≠ []) : chords.map Chord.text ≠ [] :=
    fun hNil => h (List.map_eq_nil_iff.mp hNil)
  rw [description, List.map_append]
  exact String.intercalate_append_of_ne_nil (hTexts hBefore) (hTexts hAfter)

theorem description_push (s : KeySequence) (c : Chord) :
    (s.push c).description = s.lead ++ c.text := by
  have hLast : description ⟨[c]⟩ = c.text := String.intercalate_singleton
  obtain ⟨chords⟩ := s
  cases chords with
  | nil =>
    change description ⟨[c]⟩ = "" ++ c.text
    rw [hLast, String.empty_append]
  | cons first later =>
    change description ⟨(first :: later) ++ [c]⟩ = description ⟨first :: later⟩ ++ " " ++ c.text
    rw [description_append (List.cons_ne_nil first later) (List.cons_ne_nil c []), hLast]

theorem parts_append_space (d d' : String) : parts (d ++ " " ++ d') = parts d ++ parts d' := by
  have hText : (d ++ " " ++ d').toList = d.toList ++ ' ' :: d'.toList := by
    rw [String.toList_append, String.toList_append, List.append_assoc]
    rfl
  rw [parts, hText, List.splitOn_append_cons_self, List.filter_append]
  rfl

theorem length_parts_pos (h : Visible d) : 0 < (parts d).length := by
  obtain ⟨part, hPart, hNil⟩ := exists_part_ne_nil h
  exact List.length_pos_of_mem (List.mem_filter.mpr ⟨hPart, decide_eq_true hNil⟩)

/-- If every token shows something, every chord gives the description a word or more. -/
theorem length_le_length_parts (h : ∀ c ∈ s.chords, Visible c.token) :
    s.length ≤ (parts s.description).length := by
  obtain ⟨chords⟩ := s
  induction chords using List.reverseRecOn with
  | nil => exact Nat.zero_le _
  | append_singleton chords c ih =>
    obtain ⟨hBefore, hLast⟩ := List.forall_mem_append.mp h
    have hChords := ih hBefore
    have hWord := length_parts_pos (Chord.visible_text (hLast c List.mem_cons_self))
    change (chords ++ [c]).length ≤ (parts (push ⟨chords⟩ c).description).length
    rw [description_push, List.length_append, List.length_singleton]
    unfold lead
    split
    · next hEmpty =>
      obtain rfl := List.isEmpty_iff.mp hEmpty
      rw [String.empty_append]
      exact hWord
    · rw [parts_append_space, List.length_append]
      exact Nat.add_le_add hChords hWord

theorem length_of_parse (h : parse d = .ok s) : s.length = (parts d).length :=
  (parse_eq_ok_iff.mp h).1.length_eq.symm

end KeySequence

end Keychord
