import Keychord.Proofs.Episode.Actions
import Keychord.Proofs.Keymap.Refinement

/-!
# Keys that no description can hold

An episode hands its chords to the keymap as a text, and a keymap reads that text as a sequence.
What it reads is what the keys have built if every token can be written.  A key may have any name,
though, and a name with a space or a mark in it can make the text read as another sequence: then the
keymap answers for that one (`lookup_reads_built_iff`).
-/

namespace Keychord

open Keymap

variable {α : Type}

namespace Keymap.History

/-- A sequence that is bound, or that bound sequences go on beyond. -/
def Known (h : History α) (s : KeySequence) : Prop :=
  s ∈ h.domain ∨ ∃ t ∈ h.domain, s.ProperPrefix t

instance (h : History α) (s : KeySequence) : Decidable (h.Known s) :=
  inferInstanceAs (Decidable (_ ∨ ∃ t ∈ h.domain, _))

namespace Sound

variable {h : History α} {s : KeySequence}

/-- A keymap has an answer to a text exactly if it knows the sequence that the text reads as. -/
theorem resolve_ne_unbound_iff (hSound : h.Sound) (d : String) :
    h.keymap.resolve d ≠ .unbound ↔ ∃ s, KeySequence.parse d = .ok s ∧ h.Known s := by
  rw [hSound.resolve_eq_answer, answer]
  cases hParse : KeySequence.parse d with
  | error e => simp
  | ok s =>
    simp only [Except.ok.injEq, exists_eq_left', Known]
    cases hBound : h.bound s with
    | some c => simp [mem_domain, hBound]
    | none =>
      have hFree : s ∉ h.domain := by
        rw [mem_domain, hBound]
        rintro ⟨c, ⟨⟩⟩
      by_cases hBelow : ∃ t ∈ h.domain, s.ProperPrefix t <;> simp [hFree, hBelow]

theorem writable_of_known (hSound : h.Sound) (hs : s.chords ≠ []) (hKnown : h.Known s) :
    s.Writable := by
  rcases hKnown with hMem | ⟨t, ht, hPrefix⟩
  · exact hSound.writable s hMem
  · exact hPrefix.writable hs (hSound.writable t ht)

end Sound

end Keymap.History

namespace Episode

theorem flatMap_keys_map_feed (store : Store α) (keys : List Key) :
    (keys.map (Action.feed store)).flatMap Action.keys = keys := by
  rw [List.flatMap_map]
  exact List.flatMap_singleton' keys

/-- The keymap is asked about a sequence that the keys of a stream have built.  It reads the
sequence back exactly if all tokens of the sequence can be written, as they can if those of the keys
can.  A sequence with another token is itself unknown to the keymap, which has an answer to its text
exactly if the text reads as another sequence that is known. -/
theorem lookup_reads_built_iff (calls : List (String × α)) (c : Config) (keys : List Key)
    (key : Key) (s : KeySequence)
    (hBuilt :
      let e := after { config := c } (keys.map (Action.feed (History.run calls).keymap.resolve))
      (e.builder.feed e.config key).builder = { sequence := s }) :
    (KeySequence.parse s.description = .ok s ↔ ∀ chord ∈ s.chords, Writable chord.token) ∧
    ((∀ k ∈ keys ++ [key], Writable k.token) → KeySequence.parse s.description = .ok s) ∧
    ((∃ chord ∈ s.chords, ¬ Writable chord.token) →
      ¬ (History.run calls).Known s ∧
      ((History.run calls).keymap.resolve s.description ≠ .unbound ↔
        ∃ t, t ≠ s ∧ KeySequence.parse s.description = .ok t ∧ (History.run calls).Known t)) := by
  have hSound := History.sound_run calls
  have hNil := Builder.chords_ne_nil_of_feed hBuilt
  have hChords := congrArg (fun b => b.sequence.chords) hBuilt
  have hParse : KeySequence.parse s.description = .ok s ↔
      ∀ chord ∈ s.chords, Writable chord.token :=
    ⟨fun h => (KeySequence.writable_of_parse h).token,
      fun h => KeySequence.Writable.parse_description ⟨hNil, h⟩⟩
  refine ⟨hParse, fun hKeys => hParse.mpr fun chord hChord => ?_, ?_⟩
  · obtain ⟨k, hk, hToken⟩ := exists_token_eq_of_mem_feed c _ (hChords ▸ hChord)
    rw [flatMap_keys_map_feed] at hk
    exact hToken ▸ hKeys k hk
  · rintro ⟨chord, hChord, hNot⟩
    have hOther : KeySequence.parse s.description ≠ .ok s :=
      fun h => hNot (hParse.mp h chord hChord)
    refine ⟨fun hKnown => hNot ((hSound.writable_of_known hNil hKnown).token chord hChord), ?_⟩
    rw [hSound.resolve_ne_unbound_iff]
    refine exists_congr fun t => ⟨fun ⟨ht, hKnown⟩ => ⟨?_, ht, hKnown⟩, fun h => h.2⟩
    rintro rfl
    exact hOther ht

/-- A key named `x C-s` is a chord by itself, which is not bound; but its text is that of the two
chords of another binding, and fires their command. -/
theorem named_key_fires_another_binding :
    let keymap := (History.run [("C-x C-s", "save")]).keymap
    let key : Key := .named "x C-s"
    let s : KeySequence := ⟨[⟨.control, "x C-s"⟩]⟩
    ({} : Config).validate = .ok () ∧ ¬ Writable key.token ∧
    (({} : Episode).builder.feed {} key).builder = { sequence := s } ∧
    (({} : Episode).feed keymap.resolve key).step = .command s.description "save" ∧
    KeySequence.parse s.description = .ok ⟨[⟨.control, "x"⟩, ⟨.control, "s"⟩]⟩ := by
  decide +kernel

/-- What that key is answered for. -/
theorem named_key_reads_as_another :
    let calls := [("C-x C-s", "save")]
    let s : KeySequence := ⟨[⟨.control, "x C-s"⟩]⟩
    (({} : Episode).builder.feed {} (.named "x C-s")).builder = { sequence := s } ∧
    KeySequence.parse s.description ≠ .ok s ∧ ¬ (History.run calls).Known s ∧
    ∃ t, t ≠ s ∧ KeySequence.parse s.description = .ok t ∧ (History.run calls).Known t := by
  have hBuilt : (({} : Episode).builder.feed {} (.named "x C-s")).builder =
      { sequence := ⟨[⟨.control, "x C-s"⟩]⟩ } := by decide
  obtain ⟨hParse, -, hOther⟩ := lookup_reads_built_iff [("C-x C-s", "save")] {} [] _ _ hBuilt
  obtain ⟨hUnknown, hAnswer⟩ := hOther ⟨⟨.control, "x C-s"⟩, by decide, by decide⟩
  refine ⟨hBuilt, ?_, hUnknown, hAnswer.mp (by decide +kernel)⟩
  rw [ne_eq, hParse]
  decide

end Episode

end Keychord
