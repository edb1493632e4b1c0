import Keychord.Proofs.Keymap.History

/-!
# The grammar of key descriptions

A text is cut into words at its spaces (`Cut`).  A word begins with marks, of which as many are
taken as there are (`Marked`), and what follows them must not be empty.  `Described` says what the
words of a text describe, and `parse_eq_iff_described` that `parse` gives this answer to every text.
Of the marks only the set counts, so texts that differ in their spaces and in the spelling of their
marks describe the same.  They can be told apart by an error alone: it names a word that is nothing
but marks as this is spelled.
-/

namespace Keychord

/-! ## Lists -/

theorem mapM_append_cons_of_error {ε β γ : Type} {f : β → Except ε γ} {before after : List β}
    {x : β} {e : ε} (hBefore : ∀ y ∈ before, ∃ z, f y = .ok z) (hx : f x = .error e) :
    (before ++ x :: after).mapM f = .error e := by
  induction before with
  | nil =>
    rw [List.nil_append, List.mapM_cons, hx]
    rfl
  | cons y before ih =>
    obtain ⟨⟨z, hz⟩, hBefore⟩ := List.forall_mem_cons.mp hBefore
    rw [List.cons_append, List.mapM_cons, hz, ih hBefore]
    rfl

/-! ## Marks -/

/-- A mark that can stand before a token. -/
inductive Mark where
  | control
  | metaKey
  deriving DecidableEq

namespace Mark

def text : Mark → List Char
  | .control => ['C', '-']
  | .metaKey => ['M', '-']

/-- Marks written one after the other. -/
def run (marks : List Mark) : List Char := marks.flatMap text

/-- The modifier of a set of marks. -/
def modifier (marks : List Mark) : Modifier := .ofFlags (.control ∈ marks) (.metaKey ∈ marks)

theorem run_cons (mark : Mark) (marks : List Mark) : run (mark :: marks) = mark.text ++ run marks :=
  List.flatMap_cons

theorem run_concat (marks : List Mark) (mark : Mark) :
    run (marks ++ [mark]) = run marks ++ mark.text := by
  rw [run, List.flatMap_append, List.flatMap_singleton]
  rfl

theorem modifier_congr {marks marks' : List Mark} (h : ∀ mark, mark ∈ marks ↔ mark ∈ marks') :
    modifier marks = modifier marks' := by
  simp only [modifier, h]

theorem unmarked_iff {token : List Char} :
    Unmarked token ↔ ∀ mark : Mark, ¬ mark.text <+: token := by
  constructor
  · rintro ⟨hControl, hMeta⟩ (_ | _)
    · exact hControl
    · exact hMeta
  · intro hNone
    exact ⟨hNone .control, hNone .metaKey⟩

theorem strip_run (marks : List Mark) {token : List Char} (h : Unmarked token)
    (control metaHeld : Bool) :
    Modifier.strip control metaHeld (run marks ++ token) =
      (.ofFlags (control || decide (.control ∈ marks)) (metaHeld || decide (.metaKey ∈ marks)),
        token) := by
  induction marks generalizing control metaHeld with
  | nil => simpa [run] using Modifier.strip_of_unmarked h control metaHeld
  | cons mark marks ih =>
    cases mark with
    | control =>
      change Modifier.strip true metaHeld (run marks ++ token) = _
      rw [ih]
      simp
    | metaKey =>
      change Modifier.strip control true (run marks ++ token) = _
      rw [ih]
      simp

theorem exists_run_strip (control metaHeld : Bool) (word : List Char) :
    ∃ marks, word = run marks ++ (Modifier.strip control metaHeld word).2 := by
  fun_induction Modifier.strip control metaHeld word with
  | case1 _ _ rest ih =>
    obtain ⟨marks, hRest⟩ := ih
    exact ⟨.control :: marks, congrArg ('C' :: '-' :: ·) hRest⟩
  | case2 _ _ rest ih =>
    obtain ⟨marks, hRest⟩ := ih
    exact ⟨.metaKey :: marks, congrArg ('M' :: '-' :: ·) hRest⟩
  | case3 => exact ⟨[], rfl⟩

theorem prefix_of_run_prefix {marks marks' : List Mark} {token : List Char} (h : Unmarked token)
    (hRun : run marks' <+: run marks ++ token) : marks' <+: marks := by
  induction marks' generalizing marks with
  | nil => exact List.nil_prefix
  | cons mark' marks' ih =>
    rw [run_cons] at hRun
    cases marks with
    | nil =>
      exact absurd ((List.prefix_append _ _).trans hRun) (unmarked_iff.mp h mark')
    | cons mark marks =>
      rw [run_cons, List.append_assoc] at hRun
      obtain rfl : mark' = mark := by
        cases mark' <;> cases mark <;> simp [text] at hRun ⊢
      exact List.cons_prefix_cons.mpr ⟨rfl, ih ((List.prefix_append_right_inj _).mp hRun)⟩

end Mark

/-- A word begins with these marks and with no more, and the token follows. -/
structure Marked (word : List Char) (marks : List Mark) (token : List Char) : Prop where
  eq_append : word = Mark.run marks ++ token
  longest : ∀ marks', Mark.run marks' <+: word → marks' <+: marks

/-- The marks are the longest run if the token does not begin with a mark. -/
theorem marked_iff {word token : List Char} {marks : List Mark} :
    Marked word marks token ↔ word = Mark.run marks ++ token ∧ Unmarked token := by
  constructor
  · rintro ⟨rfl, hLongest⟩
    refine ⟨rfl, Mark.unmarked_iff.mpr fun mark hPrefix => ?_⟩
    have hMore := hLongest (marks ++ [mark])
      (Mark.run_concat marks mark ▸ (List.prefix_append_right_inj _).mpr hPrefix)
    have hLength := hMore.length_le
    rw [List.length_append, List.length_singleton] at hLength
    omega
  · rintro ⟨rfl, hUnmarked⟩
    exact ⟨rfl, fun marks' => Mark.prefix_of_run_prefix hUnmarked⟩

theorem exists_marked (word : List Char) : ∃ marks token, Marked word marks token := by
  obtain ⟨marks, hWord⟩ := Mark.exists_run_strip false false word
  exact ⟨marks, _, marked_iff.mpr ⟨hWord, Modifier.unmarked_strip false false word⟩⟩

/-! ## Words -/

/-- A word that is nothing but marks. -/
def Bare (word : List Char) : Prop := ∃ marks, word = Mark.run marks

/-- A word describes a chord: the token behind all its marks, with the modifier of their set. -/
def Reads (word : List Char) (c : Chord) : Prop :=
  ∃ marks token, Marked word marks token ∧ token ≠ [] ∧
    c = ⟨Mark.modifier marks, String.ofList token⟩

/-- Words with the same token behind the same set of marks. -/
def Respelled (word word' : List Char) : Prop :=
  ∃ marks marks' token, Marked word marks token ∧ Marked word' marks' token ∧
    ∀ mark, mark ∈ marks ↔ mark ∈ marks'

theorem Marked.parse {word token : List Char} {marks : List Mark} (h : Marked word marks token) :
    Chord.parse word =
      if token = [] then .error (.invalidDescription (String.ofList word))
      else .ok ⟨Mark.modifier marks, String.ofList token⟩ := by
  obtain ⟨hWord, hUnmarked⟩ := marked_iff.mp h
  have hStrip : Modifier.strip false false word = (Mark.modifier marks, token) := by
    rw [hWord, Mark.strip_run marks hUnmarked, Bool.false_or, Bool.false_or]
    rfl
  unfold Chord.parse
  rw [hStrip]
  cases token <;> rfl

theorem Marked.bare_iff {word token : List Char} {marks : List Mark} (h : Marked word marks token) :
    Bare word ↔ token = [] := by
  constructor
  · rintro ⟨marks', rfl⟩
    obtain ⟨rest, rfl⟩ := h.longest marks' List.prefix_rfl
    have hLength := congrArg List.length h.eq_append
    simp only [Mark.run, List.flatMap_append, List.length_append] at hLength
    exact List.eq_nil_of_length_eq_zero (by omega)
  · rintro rfl
    exact ⟨marks, h.eq_append.trans (List.append_nil _)⟩

theorem Chord.parse_eq_ok_iff_reads {word : List Char} {c : Chord} :
    Chord.parse word = .ok c ↔ Reads word c := by
  constructor
  · intro h
    obtain ⟨marks, token, hMarked⟩ := exists_marked word
    rw [hMarked.parse] at h
    split at h
    · cases h
    · next hToken => exact ⟨marks, token, hMarked, hToken, (Except.ok.inj h).symm⟩
  · rintro ⟨marks, token, hMarked, hToken, rfl⟩
    rw [hMarked.parse, if_neg hToken]

theorem Chord.parse_of_bare {word : List Char} (h : Bare word) :
    Chord.parse word = .error (.invalidDescription (String.ofList word)) := by
  obtain ⟨marks, token, hMarked⟩ := exists_marked word
  rw [hMarked.parse, if_pos (hMarked.bare_iff.mp h)]

theorem exists_reads_of_not_bare {word : List Char} (h : ¬ Bare word) : ∃ c, Reads word c := by
  obtain ⟨marks, token, hMarked⟩ := exists_marked word
  exact ⟨_, marks, token, hMarked, fun hToken => h (hMarked.bare_iff.mpr hToken), rfl⟩

theorem Respelled.bare_iff {word word' : List Char} (h : Respelled word word') :
    Bare word ↔ Bare word' := by
  obtain ⟨marks, marks', token, hWord, hWord', -⟩ := h
  exact hWord.bare_iff.trans hWord'.bare_iff.symm

/-- Only an error tells how the marks of a word are spelled. -/
theorem Respelled.parse_eq {word word' : List Char} (h : Respelled word word')
    (hBare : ¬ Bare word) : Chord.parse word' = Chord.parse word := by
  obtain ⟨marks, marks', token, hWord, hWord', hSame⟩ := h
  have hToken : token ≠ [] := mt hWord.bare_iff.mpr hBare
  rw [hWord.parse, hWord'.parse, if_neg hToken, if_neg hToken, Mark.modifier_congr hSame]

/-! ## Cutting a text -/

/-- The words of a text are what stands between its spaces, where something stands there. -/
inductive Cut : List Char → List (List Char) → Prop
  | nil : Cut [] []
  | space {text : List Char} {words : List (List Char)} (cut : Cut text words) :
      Cut (' ' :: text) words
  | word {word text : List Char} {words : List (List Char)} (ne_nil : word ≠ [])
      (no_space : ' ' ∉ word) (ends : text = [] ∨ [' '] <+: text) (cut : Cut text words) :
      Cut (word ++ text) (word :: words)

theorem exists_cut (text : List Char) : ∃ words, Cut text words := by
  induction text with
  | nil => exact ⟨[], .nil⟩
  | cons c text ih =>
    obtain ⟨words, hCut⟩ := ih
    by_cases hSpace : c = ' '
    · subst hSpace
      exact ⟨words, .space hCut⟩
    · have hFirst : ' ' ∉ [c] := by simpa using Ne.symm hSpace
      -- The character begins a word of its own, or goes before the word that begins the text.
      cases hCut with
      | nil => exact ⟨[[c]], .word (List.cons_ne_nil c []) hFirst (.inl rfl) .nil⟩
      | @space text words hCut =>
        exact ⟨[c] :: words, .word (List.cons_ne_nil c []) hFirst
          (.inr (List.prefix_append [' '] text)) (.space hCut)⟩
      | @word word rest words hNil hWord hEnds hCut =>
        have hLonger : ' ' ∉ c :: word := by
          rw [List.mem_cons, not_or]
          exact ⟨Ne.symm hSpace, hWord⟩
        exact ⟨(c :: word) :: words, .word (List.cons_ne_nil c word) hLonger hEnds hCut⟩

theorem Cut.filter_splitOn {text : List Char} {words : List (List Char)} (h : Cut text words) :
    (text.splitOn ' ').filter (· ≠ []) = words := by
  induction h with
  | nil => rfl
  | space _ ih =>
    rw [List.splitOn_cons_eq_if_modifyHead, if_pos (beq_self_eq_true ' '),
      List.filter_cons_of_neg (by simp)]
    exact ih
  | @word word text words hNil hWord hEnds _ ih =>
    rcases hEnds with rfl | ⟨rest, rfl⟩
    · rw [List.splitOn_nil, List.filter_cons_of_neg (by simp)] at ih
      rw [List.append_nil, List.splitOn_eq_singleton hWord, List.filter_cons_of_pos (by simpa),
        ← ih]
    · rw [List.singleton_append, List.splitOn_cons_eq_if_modifyHead,
        if_pos (beq_self_eq_true ' '), List.filter_cons_of_neg (by simp)] at ih
      rw [List.singleton_append, List.splitOn_append_cons_self, List.splitOn_eq_singleton hWord,
        List.singleton_append, List.filter_cons_of_pos (by simpa), ih]

namespace KeySequence

/-- The parts of a description are the only words that it can be cut into. -/
theorem cut_iff {d : String} {words : List (List Char)} :
    Cut d.toList words ↔ parts d = words := by
  constructor
  · exact Cut.filter_splitOn
  · rintro rfl
    obtain ⟨words, hCut⟩ := exists_cut d.toList
    rw [parts, hCut.filter_splitOn]
    exact hCut

/-! ## Descriptions -/

/-- What the words of a text describe: no words are an error, and so are words with a bare one among
them, of which the first is named; all other words describe one chord each. -/
inductive Described : List (List Char) → Except KeymapError KeySequence → Prop
  | empty : Described [] (.error .emptySequence)
  | bare {before after : List (List Char)} {word : List Char}
      (described : ∀ earlier ∈ before, ¬ Bare earlier) (bare : Bare word) :
      Described (before ++ word :: after) (.error (.invalidDescription (String.ofList word)))
  | chords {words : List (List Char)} {s : KeySequence} (ne_nil : words ≠ [])
      (reads : List.Forall₂ Reads words s.chords) : Described words (.ok s)

theorem exists_reads_or_bare (words : List (List Char)) :
    (∃ chords, List.Forall₂ Reads words chords) ∨
    ∃ before word after, words = before ++ word :: after ∧
      (∀ earlier ∈ before, ¬ Bare earlier) ∧ Bare word := by
  induction words with
  | nil => exact .inl ⟨[], .nil⟩
  | cons word words ih =>
    by_cases hBare : Bare word
    · exact .inr ⟨[], word, words, rfl, fun earlier h => absurd h List.not_mem_nil, hBare⟩
    · rcases ih with ⟨chords, hReads⟩ | ⟨before, later, after, rfl, hBefore, hLater⟩
      · obtain ⟨c, hWord⟩ := exists_reads_of_not_bare hBare
        exact .inl ⟨c :: chords, .cons hWord hReads⟩
      · exact .inr ⟨word :: before, later, after, rfl,
          List.forall_mem_cons.mpr ⟨hBare, hBefore⟩, hLater⟩

theorem exists_described (words : List (List Char)) : ∃ answer, Described words answer := by
  rcases exists_reads_or_bare words with ⟨chords, hReads⟩ | ⟨before, word, after, rfl, h, hBare⟩
  · cases words with
    | nil => exact ⟨_, .empty⟩
    | cons word words => exact ⟨.ok ⟨chords⟩, .chords (List.cons_ne_nil word words) hReads⟩
  · exact ⟨_, .bare h hBare⟩

theorem Described.parse_eq {d : String} {answer : Except KeymapError KeySequence}
    (h : Described (parts d) answer) : parse d = answer := by
  generalize hParts : parts d = words at h
  cases h with
  | empty =>
    rw [parse, hParts]
    rfl
  | @bare before after word hBefore hBare =>
    have hReads : ∀ earlier ∈ before, ∃ c, Chord.parse earlier = .ok c := by
      intro earlier hMem
      obtain ⟨c, hReads⟩ := exists_reads_of_not_bare (hBefore earlier hMem)
      exact ⟨c, Chord.parse_eq_ok_iff_reads.mpr hReads⟩
    rw [parse, hParts, mapM_append_cons_of_error hReads (Chord.parse_of_bare hBare)]
    rfl
  | @chords _ s hNil hReads =>
    rw [parse_eq_ok_iff, hParts]
    refine ⟨hReads.imp fun word c => Chord.parse_eq_ok_iff_reads.mpr, ?_⟩
    intro hChords
    rw [hChords, List.forall₂_nil_right_iff] at hReads
    exact hNil hReads

theorem parse_of_cut_bare {d : String} {word : List Char} (hCut : Cut d.toList [word])
    (hBare : Bare word) : parse d = .error (.invalidDescription (String.ofList word)) := by
  refine Described.parse_eq ?_
  rw [cut_iff.mp hCut]
  exact @Described.bare [] [] word (List.forall_mem_nil _) hBare

/-! ## Other spellings -/

/-- Answers that are the same, or that are both an error which names a bare word, where these two
words stand at the same place. -/
inductive SameButName {β : Type} (words words' : List (List Char)) :
    Except KeymapError β → Except KeymapError β → Prop
  | same (answer : Except KeymapError β) : SameButName words words' answer answer
  | named {word word' : List Char} (place : (word, word') ∈ words.zip words') (bare : Bare word)
      (bare' : Bare word') :
      SameButName words words' (.error (.invalidDescription (String.ofList word)))
        (.error (.invalidDescription (String.ofList word')))

namespace SameButName

variable {β γ : Type} {words words' : List (List Char)} {answer answer' : Except KeymapError β}

theorem cons (h : SameButName words words' answer answer') (word word' : List Char) :
    SameButName (word :: words) (word' :: words') answer answer' := by
  cases h with
  | same => exact .same answer
  | named place bare bare' => exact .named (List.mem_cons_of_mem (word, word') place) bare bare'

theorem bind (h : SameButName words words' answer answer') (f : β → Except KeymapError γ) :
    SameButName words words' (answer >>= f) (answer' >>= f) := by
  cases h with
  | same => exact .same (answer >>= f)
  | named place bare bare' => exact .named place bare bare'

theorem eq_ok_iff (h : SameButName words words' answer answer') (x : β) :
    answer' = .ok x ↔ answer = .ok x := by
  cases h with
  | same => rfl
  | named place bare bare' => exact iff_of_false nofun nofun

theorem eq_of_verbatim (h : SameButName words words' answer answer')
    (hVerbatim : ∀ {word word'}, (word, word') ∈ words.zip words' → Bare word → word = word') :
    answer' = answer := by
  cases h with
  | same => rfl
  | named place bare bare' => rw [hVerbatim place bare]

end SameButName

theorem mapM_parse_respelled {words words' : List (List Char)}
    (h : List.Forall₂ Respelled words words') :
    SameButName words words' (words.mapM Chord.parse) (words'.mapM Chord.parse) := by
  induction h with
  | nil => exact .same _
  | @cons word word' words words' hWord _ ih =>
    rw [List.mapM_cons, List.mapM_cons]
    by_cases hBare : Bare word
    · have hBare' := hWord.bare_iff.mp hBare
      rw [Chord.parse_of_bare hBare, Chord.parse_of_bare hBare']
      exact .named List.mem_cons_self hBare hBare'
    · rw [hWord.parse_eq hBare]
      cases Chord.parse word with
      | error e => exact .same (.error e)
      | ok c => exact (ih.cons word word').bind fun chords => .ok (c :: chords)

theorem parse_respelled {d d' : String} (h : List.Forall₂ Respelled (parts d) (parts d')) :
    SameButName (parts d) (parts d') (parse d) (parse d') := by
  rw [parse, parse]
  exact (mapM_parse_respelled h).bind _

end KeySequence

section keymaps

open KeySequence

variable {α : Type} {d d' : String} {words words' : List (List Char)}

theorem Keymap.resolve_respelled (h : SameButName words words' (parse d) (parse d'))
    (k : Keymap α) : k.resolve d' = k.resolve d := by
  unfold resolve
  generalize parse d = answer, parse d' = answer' at h ⊢
  cases h with
  | same => rfl
  | named place bare bare' => rfl

theorem Keymap.tryBind_respelled (h : SameButName words words' (parse d) (parse d'))
    (k : Keymap α) (c : α) :
    SameButName words words' (k.tryBind d c).1 (k.tryBind d' c).1 ∧
      (k.tryBind d' c).2 = (k.tryBind d c).2 := by
  rw [tryBind_eq, tryBind_eq]
  generalize parse d = answer, parse d' = answer' at h ⊢
  cases h with
  | same => exact ⟨.same _, rfl⟩
  | named place bare bare' => exact ⟨.named place bare bare', rfl⟩

end keymaps

namespace KeySequence

/-- A text can be cut into words in one way, and `parse` answers what these words describe and
nothing else.  If two texts have the same words up to the spelling of their marks, both read as the
same sequence or as none, and a keymap answers and becomes the same with either; only an error that
names a bare word tells how this is spelled. -/
theorem parse_eq_iff_described :
    (∀ d : String, ∃! words, Cut d.toList words) ∧
    (∀ (d : String) answer, parse d = answer ↔
      ∃ words, Cut d.toList words ∧ Described words answer) ∧
    ∀ (d d' : String) words words', Cut d.toList words → Cut d'.toList words' →
      (List.Forall₂ Respelled words words' →
        SameButName words words' (parse d) (parse d') ∧
        (∀ s, parse d' = .ok s ↔ parse d = .ok s) ∧
        ∀ (α : Type) (k : Keymap α), k.resolve d' = k.resolve d ∧
          ∀ c, SameButName words words' (k.tryBind d c).1 (k.tryBind d' c).1 ∧
            (k.tryBind d' c).2 = (k.tryBind d c).2) ∧
      (List.Forall₂ (fun word word' => Respelled word word' ∧ (Bare word → word = word'))
          words words' →
        parse d' = parse d ∧
        ∀ (α : Type) (k : Keymap α), k.resolve d' = k.resolve d ∧
          ∀ c, k.tryBind d' c = k.tryBind d c) := by
  refine ⟨fun d => ?_, fun d answer => ?_, ?_⟩
  · exact ⟨parts d, cut_iff.mpr rfl, fun words hCut => (cut_iff.mp hCut).symm⟩
  · constructor
    · rintro rfl
      obtain ⟨answer, hDescribed⟩ := exists_described (parts d)
      rw [hDescribed.parse_eq]
      exact ⟨parts d, cut_iff.mpr rfl, hDescribed⟩
    · rintro ⟨words, hCut, hDescribed⟩
      obtain rfl := cut_iff.mp hCut
      exact hDescribed.parse_eq
  · intro d d' words words' hCut hCut'
    obtain rfl := cut_iff.mp hCut
    obtain rfl := cut_iff.mp hCut'
    refine ⟨fun hRespelled => ?_, fun hVerbatim => ?_⟩
    · have hSame := parse_respelled hRespelled
      exact ⟨hSame, hSame.eq_ok_iff,
        fun α k => ⟨k.resolve_respelled hSame, k.tryBind_respelled hSame⟩⟩
    · have hSame := parse_respelled (hVerbatim.imp fun word word' h => h.1)
      have hParse : parse d' = parse d :=
        hSame.eq_of_verbatim fun hPlace => ((List.forall₂_iff_zip.mp hVerbatim).2 hPlace).2
      refine ⟨hParse, fun α k => ⟨k.resolve_respelled hSame, fun c => ?_⟩⟩
      rw [Keymap.tryBind_eq, Keymap.tryBind_eq, hParse]

/-- Two texts that differ in the order of their marks alone, and are nothing but marks, do not read
equally, and a keymap that refuses to bind them tells which of them it was. -/
theorem bare_words_parse_apart :
    let d := "C-M-"
    let d' := "M-C-"
    (∃ words words', Cut d.toList words ∧ Cut d'.toList words' ∧
      List.Forall₂ Respelled words words') ∧
    parse d = .error (.invalidDescription d) ∧ parse d' = .error (.invalidDescription d') ∧
    (∀ (α : Type) (k : Keymap α) c, k.tryBind d c = (.error (.invalidDescription d), k) ∧
      k.tryBind d' c = (.error (.invalidDescription d'), k)) ∧
    ¬ ∀ (d d' : String) words words', Cut d.toList words → Cut d'.toList words' →
      List.Forall₂ Respelled words words' →
        parse d' = parse d ∧
        ∀ (α : Type) (k : Keymap α), k.resolve d' = k.resolve d ∧
          ∀ c, k.tryBind d' c = k.tryBind d c := by
  intro d d'
  have hCut : Cut d.toList [['C', '-', 'M', '-']] := by
    rw [show d.toList = ['C', '-', 'M', '-'] ++ [] from String.toList_ofList]
    exact .word (by decide) (by decide) (.inl rfl) .nil
  have hCut' : Cut d'.toList [['M', '-', 'C', '-']] := by
    rw [show d'.toList = ['M', '-', 'C', '-'] ++ [] from String.toList_ofList]
    exact .word (by decide) (by decide) (.inl rfl) .nil
  have hWord : Respelled ['C', '-', 'M', '-'] ['M', '-', 'C', '-'] :=
    ⟨[.control, .metaKey], [.metaKey, .control], [], marked_iff.mpr ⟨rfl, by decide⟩,
      marked_iff.mpr ⟨rfl, by decide⟩, by simp [or_comm]⟩
  have hWords : List.Forall₂ Respelled [['C', '-', 'M', '-']] [['M', '-', 'C', '-']] :=
    .cons hWord .nil
  have hParse : parse d = .error (.invalidDescription d) :=
    parse_of_cut_bare hCut ⟨[.control, .metaKey], rfl⟩
  have hParse' : parse d' = .error (.invalidDescription d') :=
    parse_of_cut_bare hCut' ⟨[.metaKey, .control], rfl⟩
  refine ⟨⟨_, _, hCut, hCut', hWords⟩, hParse, hParse', fun α k c => ⟨?_, ?_⟩, fun hClaim => ?_⟩
  · rw [Keymap.tryBind_eq, hParse]
  · rw [Keymap.tryBind_eq, hParse']
  · have hSame := (hClaim d d' _ _ hCut hCut' hWords).1
    rw [hParse, hParse'] at hSame
    exact absurd hSame (by decide)

/-- Tabs stay in a token, and so does a hyphen where no mark is before it. -/
example : parse " M-C-C-a\tb C-- c-x" =
    .ok ⟨[⟨.controlMeta, "a\tb"⟩, ⟨.control, "-"⟩, ⟨.plain, "c-x"⟩]⟩ := by cbv

/-- The first bare word is named, as it is written. -/
example : parse "x  C M-C- C-" = .error (.invalidDescription "M-C-") := by cbv

end KeySequence

end Keychord
