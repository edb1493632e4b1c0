import Mathlib.Data.List.DropRight
import Keychord.Json.Skip
import Keychord.Proofs.Json.Strings

/-!
# Values that are skipped

The values of JSON text (`Written`), nested to any depth: words, numbers, strings, and containers
whose items are separated by commas.  Skipping a value leaves exactly what stands behind it
(`Written.skipValue_eq`).
-/

namespace Keychord.Json

/-! ## Numbers -/

/-- A row of digits. -/
def Digits (text : List Char) : Prop := text ≠ [] ∧ ∀ c ∈ text, c.isDigit = true

instance (text : List Char) : Decidable (Digits text) :=
  @instDecidableAnd _ _ inferInstance (List.decidableBAll _ text)

/-- The digits before the point.  A zero at the beginning is the only one. -/
inductive Whole : List Char → Prop
  | zero : Whole ['0']
  | digits {text : List Char} (digits : Digits text) (first : text.head? ≠ some '0') : Whole text

inductive Fraction : List Char → Prop
  | none : Fraction []
  | some {text : List Char} (digits : Digits text) : Fraction ('.' :: text)

inductive Exponent : List Char → Prop
  | none : Exponent []
  | some {mark : Char} {sign text : List Char} (isMark : mark ∈ ['e', 'E'])
      (isSign : sign ∈ [[], ['+'], ['-']]) (digits : Digits text) :
      Exponent (mark :: (sign ++ text))

inductive Numeral : List Char → Prop
  | mk {sign whole fraction exponent : List Char} (isSign : sign ∈ [[], ['-']])
      (isWhole : Whole whole) (isFraction : Fraction fraction) (isExponent : Exponent exponent) :
      Numeral (sign ++ (whole ++ (fraction ++ exponent)))

/-- What may stand behind a value. -/
def Delimited (rest : List Char) : Prop :=
  ∀ c ∈ rest.head?, c ∈ [' ', '\n', '\t', '\r', ',', ']', '}']

/-- What stands behind a value does not go on with a number. -/
theorem Delimited.head {rest : List Char} (h : Delimited rest) :
    ∀ c ∈ rest.head?, c.isDigit = false ∧ c ≠ '.' ∧ isExponentMark c = false := by
  have hAll : ∀ c ∈ [' ', '\n', '\t', '\r', ',', ']', '}'],
      c.isDigit = false ∧ c ≠ '.' ∧ isExponentMark c = false := by simp [isExponentMark]
  exact fun c hc => hAll c (h c hc)

theorem spanDigits_append {digits rest : List Char} (h : ∀ c ∈ digits, c.isDigit = true)
    (hRest : ∀ c ∈ rest.head?, c.isDigit = false) :
    spanDigits (digits ++ rest) = (digits, rest) := by
  have hDigits : ∀ c ∈ digits, isDigit c = true := h
  rw [spanDigits, List.takeWhile_append_of_pos hDigits, List.dropWhile_append_of_pos hDigits]
  cases rest with
  | nil => simp
  | cons c rest =>
    have hStop : ¬ isDigit c = true := Bool.eq_false_iff.mp (hRest c rfl)
    rw [List.takeWhile_cons_of_neg hStop, List.dropWhile_cons_of_neg hStop, List.append_nil]

theorem Digits.exists_cons {text : List Char} (h : Digits text) :
    ∃ c more, text = c :: more ∧ c.isDigit = true := by
  obtain ⟨c, more, rfl⟩ := List.exists_cons_of_ne_nil h.1
  exact ⟨c, more, rfl, h.2 c List.mem_cons_self⟩

theorem readSign_append {sign text : List Char} (isSign : sign ∈ [[], ['+'], ['-']])
    (digits : Digits text) (rest : List Char) :
    (readSign (sign ++ (text ++ rest))).2 = text ++ rest := by
  obtain ⟨c, more, rfl, hDigit⟩ := digits.exists_cons
  simp only [List.mem_cons, List.not_mem_nil, or_false] at isSign
  rcases isSign with rfl | rfl | rfl
  · have hPlus : c ≠ '+' := by rintro rfl; contradiction
    have hMinus : c ≠ '-' := by rintro rfl; contradiction
    rw [List.nil_append, List.cons_append, readSign] <;> simp [hPlus, hMinus]
  · rfl
  · rfl

theorem Exponent.skipScale_eq {text rest : List Char} (h : Exponent text) (hRest : Delimited rest) :
    skipScale (text ++ rest) = .ok rest := by
  cases h with
  | none =>
    cases rest with
    | nil => rfl
    | cons c rest =>
      rw [List.nil_append, skipScale, (hRest.head c rfl).2.2]
      rfl
  | @some mark sign digits isMark isSign isDigits =>
    have hMark : isExponentMark mark = true := by
      simpa [isExponentMark] using isMark
    have hSpan : spanDigits (digits ++ rest) = (digits, rest) :=
      spanDigits_append isDigits.2 fun c hc => (hRest.head c hc).1
    obtain ⟨d, more, rfl, -⟩ := isDigits.exists_cons
    rw [List.cons_append, List.append_assoc, skipScale, hMark, if_pos rfl, skipExponent]
    simp only [readSign_append isSign isDigits, hSpan]

theorem Exponent.head {text rest : List Char} (h : Exponent text) (hRest : Delimited rest) :
    ∀ c ∈ (text ++ rest).head?, c.isDigit = false ∧ c ≠ '.' := by
  cases h with
  | none => exact fun c hc => ⟨(hRest.head c hc).1, (hRest.head c hc).2.1⟩
  | some isMark isSign isDigits =>
    rintro d ⟨⟩
    simp only [List.mem_cons, List.not_mem_nil, or_false] at isMark
    rcases isMark with rfl | rfl
    · decide
    · decide

theorem Whole.forall_isDigit {whole : List Char} (h : Whole whole) :
    ∀ c ∈ whole, c.isDigit = true := by
  cases h with
  | zero => simp
  | digits digits => exact digits.2

theorem Whole.exists_cons {whole : List Char} (h : Whole whole) :
    ∃ c more, whole = c :: more ∧ c.isDigit = true ∧ (c = '0' → more = []) := by
  cases h with
  | zero => exact ⟨'0', [], rfl, rfl, fun _ => rfl⟩
  | digits digits first =>
    obtain ⟨c, more, rfl, hDigit⟩ := digits.exists_cons
    exact ⟨c, more, rfl, hDigit, fun hZero => absurd (congrArg some hZero) first⟩

theorem skipNumber_append {whole fraction exponent rest : List Char} (isWhole : Whole whole)
    (isFraction : Fraction fraction) (isExponent : Exponent exponent) (hRest : Delimited rest) :
    skipNumber (whole ++ (fraction ++ (exponent ++ rest))) = .ok rest := by
  have hHead := isExponent.head hRest
  have hTail : ∀ c ∈ (fraction ++ (exponent ++ rest)).head?, c.isDigit = false := by
    cases isFraction with
    | none => exact fun c hc => (hHead c hc).1
    | some digits =>
      rintro c ⟨⟩
      rfl
  have hSpan := spanDigits_append isWhole.forall_isDigit hTail
  obtain ⟨c, more, rfl, hDigit, hZero⟩ := isWhole.exists_cons
  have hDigit' : isDigit c = true := hDigit
  have hLone : ¬ (decide (c = '0') && decide ((c :: more).length ≠ 1)) = true := by
    by_cases h : c = '0' <;> simp [h, hZero]
  rw [List.cons_append] at hSpan ⊢
  simp only [skipNumber, hDigit', hSpan, hLone, Bool.not_true, Bool.false_eq_true, if_false]
  cases isFraction with
  | none =>
    rw [List.nil_append]
    split
    · next hPoint => exact absurd rfl (hHead '.' (by rw [hPoint]; rfl)).2
    · exact isExponent.skipScale_eq hRest
  | @some digits isDigits =>
    have hFraction := spanDigits_append isDigits.2 fun c hc => (hHead c hc).1
    obtain ⟨d, more', rfl, -⟩ := isDigits.exists_cons
    rw [List.cons_append]
    simp only [hFraction]
    exact isExponent.skipScale_eq hRest

/-! ## Scalars -/

/-- A value that is no container. -/
inductive Scalar : List Char → Prop
  | word {text : List Char}
      (isWord : text ∈ [['n', 'u', 'l', 'l'], ['t', 'r', 'u', 'e'], ['f', 'a', 'l', 's', 'e']]) :
      Scalar text
  | numeral {text : List Char} (numeral : Numeral text) : Scalar text
  | string {text : List Char} (contents : Contents text) : Scalar ('"' :: (text ++ ['"']))

theorem not_mem_of_isDigit {c : Char} (h : c.isDigit = true) :
    c ∉ [' ', '\n', '\t', '\r', '[', '{', ']', '}', 'n', 't', 'f', '-', '"'] := by
  have hAll : ∀ c ∈ [' ', '\n', '\t', '\r', '[', '{', ']', '}', 'n', 't', 'f', '-', '"'],
      c.isDigit = false := by simp
  intro hc
  rw [hAll c hc] at h
  contradiction

theorem Scalar.head {text : List Char} (h : Scalar text) :
    ∃ c rest, text = c :: rest ∧ c ∉ [' ', '\n', '\t', '\r', '[', '{', ']', '}'] := by
  cases h with
  | word isWord =>
    simp only [List.mem_cons, List.not_mem_nil, or_false] at isWord
    rcases isWord with rfl | rfl | rfl <;> exact ⟨_, _, rfl, by decide⟩
  | numeral numeral =>
    obtain ⟨isSign, isWhole, -, -⟩ := numeral
    simp only [List.mem_cons, List.not_mem_nil, or_false] at isSign
    rcases isSign with rfl | rfl
    · obtain ⟨c, more, rfl, hDigit, -⟩ := isWhole.exists_cons
      exact ⟨c, _, rfl, fun hc => not_mem_of_isDigit hDigit (List.mem_append_left _ hc)⟩
    · exact ⟨'-', _, rfl, by decide⟩
  | string => exact ⟨'"', _, rfl, by decide⟩

theorem skipScalar_of_isDigit {c : Char} (h : c.isDigit = true) (text : List Char) :
    skipScalar (c :: text) = skipNumber (c :: text) := by
  have hNot := not_mem_of_isDigit h
  have hDigit : isDigit c = true := h
  simp only [List.mem_cons, List.not_mem_nil, or_false, not_or] at hNot
  rw [skipScalar, if_pos hDigit] <;> simp [hNot]

theorem Scalar.skipScalar_eq {text rest : List Char} (h : Scalar text) (hRest : Delimited rest) :
    skipScalar (text ++ rest) = .ok rest := by
  cases h with
  | word isWord =>
    simp only [List.mem_cons, List.not_mem_nil, or_false] at isWord
    rcases isWord with rfl | rfl | rfl <;> rfl
  | numeral numeral =>
    obtain ⟨isSign, isWhole, isFraction, isExponent⟩ := numeral
    have hNumber := skipNumber_append isWhole isFraction isExponent hRest
    simp only [List.mem_cons, List.not_mem_nil, or_false] at isSign
    rcases isSign with rfl | rfl
    · obtain ⟨c, more, rfl, hDigit, -⟩ := isWhole.exists_cons
      rw [List.cons_append, ← skipScalar_of_isDigit hDigit] at hNumber
      simpa only [List.nil_append, List.cons_append, List.append_assoc] using hNumber
    · rw [← hNumber]
      simp only [List.nil_append, List.cons_append, List.append_assoc, skipScalar]
  | string contents =>
    rw [List.cons_append, List.append_assoc]
    exact contents.skipString_eq rest

/-! ## Containers -/

/-- The character that opens a container. -/
def Frame.opening : Frame → Char
  | .list => '['
  | .object => '{'

/-- What stands before the value of an item: nothing, or a key and its colon. -/
inductive ItemKey : Frame → List Char → Prop
  | list : ItemKey .list []
  | object {before name after : List Char} (hBefore : Blanks before) (contents : Contents name)
      (hAfter : Blanks after) :
      ItemKey .object (before ++ '"' :: (name ++ '"' :: (after ++ [':'])))

/-- A value, or the items of a container. -/
inductive Kind where
  | value
  | items (frame : Frame)

/-- The texts of the values, and of the items between the two characters of a container. -/
inductive Written : Kind → List Char → Prop
  | scalar {text : List Char} (scalar : Scalar text) : Written .value text
  | empty (frame : Frame) {blanks : List Char} (hBlanks : Blanks blanks) :
      Written .value (frame.opening :: (blanks ++ [frame.close]))
  | container {frame : Frame} {text : List Char} (items : Written (.items frame) text) :
      Written .value (frame.opening :: (text ++ [frame.close]))
  | item {frame : Frame} {key before text after : List Char} (isKey : ItemKey frame key)
      (hBefore : Blanks before) (value : Written .value text) (hAfter : Blanks after) :
      Written (.items frame) (key ++ (before ++ (text ++ after)))
  | items {frame : Frame} {key before text after more : List Char} (isKey : ItemKey frame key)
      (hBefore : Blanks before) (value : Written .value text) (hAfter : Blanks after)
      (items : Written (.items frame) more) :
      Written (.items frame) (key ++ (before ++ (text ++ (after ++ ',' :: more))))

theorem Written.head {text : List Char} (h : Written .value text) :
    ∃ c rest, text = c :: rest ∧ c ∉ [' ', '\n', '\t', '\r', ']', '}'] := by
  cases h with
  | scalar scalar =>
    obtain ⟨c, rest, hText, hc⟩ := scalar.head
    exact ⟨c, rest, hText, by simp_all⟩
  | empty frame => cases frame <;> exact ⟨_, _, rfl, by decide⟩
  | @container frame => cases frame <;> exact ⟨_, _, rfl, by decide⟩

section Steps

variable {frame : Frame} {stack : List Frame} {c : Char} {text rest : List Char}

theorem skipValue_opening (h : skipBlanks text = frame.opening :: rest) :
    skipValue stack text = skipItem true frame stack rest := by
  rw [skipValue]
  cases frame with
  | list =>
    rw [Frame.opening] at h
    split <;> simp_all
  | object =>
    rw [Frame.opening] at h
    split <;> simp_all

theorem skipValue_scalar (h : skipBlanks text = c :: rest) (hc : c ≠ '[' ∧ c ≠ '{')
    {rest' : List Char} (hSkip : skipScalar (c :: rest) = .ok rest') :
    skipValue stack text = skipAfter stack rest' := by
  rw [skipValue]
  split
  · next hOpening =>
    rw [h] at hOpening
    exact absurd (List.cons.inj hOpening).1 hc.1
  · next hOpening =>
    rw [h] at hOpening
    exact absurd (List.cons.inj hOpening).1 hc.2
  · split
    · next hScalar =>
      rw [h, hSkip] at hScalar
      rw [Except.ok.inj hScalar]
    · next hScalar =>
      rw [h, hSkip] at hScalar
      contradiction

theorem skipItem_cons (isFirst : Bool) (h : skipBlanks text = c :: rest) :
    skipItem isFirst frame stack text =
      if c = frame.close then skipAfter stack rest
      else if isFirst then skipEntry frame stack (c :: rest)
      else if c = ',' then skipEntry frame stack rest
      else .error (.next frame.expected (c :: rest)) := by
  rw [skipItem]
  split
  · next hEnd =>
    rw [h] at hEnd
    contradiction
  · next hCons =>
    rw [h] at hCons
    obtain ⟨rfl, rfl⟩ := List.cons.inj hCons
    rfl

theorem skipItem_close (isFirst : Bool) (h : skipBlanks text = frame.close :: rest) :
    skipItem isFirst frame stack text = skipAfter stack rest := by
  rw [skipItem_cons isFirst h, if_pos rfl]

theorem skipItem_first (h : skipBlanks text = c :: rest) (hc : c ≠ frame.close) :
    skipItem true frame stack text = skipEntry frame stack (c :: rest) := by
  rw [skipItem_cons true h, if_neg hc, if_pos rfl]

theorem skipItem_comma (h : skipBlanks text = ',' :: rest) :
    skipItem false frame stack text = skipEntry frame stack rest := by
  have hComma : ',' ≠ frame.close := by cases frame <;> decide
  rw [skipItem_cons false h, if_neg hComma, if_neg Bool.false_ne_true, if_pos rfl]

theorem skipEntry_skipBlanks :
    skipEntry frame stack (skipBlanks text) = skipEntry frame stack text := by
  have hTwice : skipBlanks (skipBlanks text) = skipBlanks text := List.dropWhile_idempotent ..
  cases frame with
  | list => rw [skipEntry, skipEntry, skipValue, skipValue, hTwice]
  | object => rw [skipEntry, skipEntry, skipKey, skipKey, hTwice]

end Steps

theorem readColon_append {colon : List Char} (hColon : Blanks colon) (rest : List Char) :
    readColon (colon ++ ':' :: rest) = .ok rest := by
  rw [readColon, skipBlanks_append_cons hColon (by decide)]
  rfl

theorem skipKey_append {before name after : List Char} (hBefore : Blanks before)
    (contents : Contents name) (hAfter : Blanks after) (rest : List Char) :
    skipKey (before ++ '"' :: (name ++ '"' :: (after ++ ':' :: rest))) = .ok rest := by
  rw [skipKey, skipBlanks_append_cons hBefore (by decide)]
  simp only [contents.skipString_eq, Except.bind]
  exact readColon_append hAfter rest

theorem ItemKey.skipEntry_eq {frame : Frame} {key : List Char} (h : ItemKey frame key)
    (stack : List Frame) (rest : List Char) :
    skipEntry frame stack (key ++ rest) = skipValue (frame :: stack) rest := by
  cases h with
  | list => rw [List.nil_append, skipEntry]
  | object hBefore contents hAfter =>
    have hKey := skipKey_append hBefore contents hAfter rest
    simp only [List.append_assoc, List.cons_append, List.nil_append]
    rw [skipEntry]
    split <;> simp_all

theorem ItemKey.head {frame : Frame} {key before text : List Char} (h : ItemKey frame key)
    (hBefore : Blanks before) (value : Written .value text) (rest : List Char) :
    ∃ c more, skipBlanks (key ++ (before ++ (text ++ rest))) = c :: more ∧ c ≠ frame.close := by
  cases h with
  | list =>
    obtain ⟨c, more, rfl, hc⟩ := value.head
    simp only [List.mem_cons, List.not_mem_nil, or_false, not_or] at hc
    exact ⟨c, _, skipBlanks_append_cons hBefore (by simp [hc]) _, hc.2.2.2.2.1⟩
  | object hBefore' =>
    rw [List.append_assoc]
    exact ⟨'"', _, skipBlanks_append_cons hBefore' (by decide) _, by decide⟩

theorem Written.items_head {frame : Frame} {text : List Char} (h : Written (.items frame) text)
    (rest : List Char) :
    ∃ c more, skipBlanks (text ++ rest) = c :: more ∧ c ≠ frame.close := by
  cases h with
  | item isKey hBefore value =>
    simpa only [List.append_assoc] using isKey.head hBefore value _
  | items isKey hBefore value =>
    simpa only [List.append_assoc] using isKey.head hBefore value _

theorem Delimited.append {blanks rest : List Char} (hBlanks : Blanks blanks) (h : Delimited rest) :
    Delimited (blanks ++ rest) := by
  cases blanks with
  | nil => exact h
  | cons c blanks =>
    rintro d ⟨⟩
    exact List.mem_append_left [',', ']', '}'] (hBlanks c List.mem_cons_self)

theorem Delimited.close (frame : Frame) (rest : List Char) : Delimited (frame.close :: rest) := by
  rintro c ⟨⟩
  cases frame <;> decide

theorem Delimited.comma (rest : List Char) : Delimited (',' :: rest) := by
  rintro c ⟨⟩
  decide

/-- What it means that a text is passed over: a value among blanks, or items up to the end of
their container. -/
def Skipped : Kind → List Char → Prop
  | .value, text => ∀ before stack rest, Blanks before → Delimited rest →
      skipValue stack (before ++ (text ++ rest)) = skipAfter stack rest
  | .items frame, text => ∀ stack rest,
      skipEntry frame stack (text ++ frame.close :: rest) = skipAfter stack rest

theorem skipAfter_cons (frame : Frame) (stack : List Frame) (text : List Char) :
    skipAfter (frame :: stack) text = skipItem false frame stack text := by
  rw [skipAfter]

theorem Frame.opening_not_blank (frame : Frame) : frame.opening ∉ [' ', '\n', '\t', '\r'] := by
  cases frame <;> decide

theorem Frame.close_not_blank (frame : Frame) : frame.close ∉ [' ', '\n', '\t', '\r'] := by
  cases frame <;> decide

/-- By induction on the derivation: the stack holds the containers around the text. -/
theorem Written.skipped {kind : Kind} {text : List Char} (h : Written kind text) :
    Skipped kind text := by
  induction h with
  | scalar scalar =>
    intro before stack rest hBefore hRest
    have hSkip := scalar.skipScalar_eq hRest
    obtain ⟨c, more, rfl, hc⟩ := scalar.head
    simp only [List.mem_cons, List.not_mem_nil, or_false, not_or] at hc
    exact skipValue_scalar (skipBlanks_append_cons hBefore (by simp [hc]) _)
      ⟨hc.2.2.2.2.1, hc.2.2.2.2.2.1⟩ hSkip
  | @empty frame blanks hBlanks =>
    intro before stack rest hBefore hRest
    have hOpening := skipBlanks_append_cons hBefore frame.opening_not_blank
    have hClose := skipBlanks_append_cons hBlanks frame.close_not_blank rest
    rw [List.cons_append, List.append_assoc, List.singleton_append, skipValue_opening (hOpening _),
      skipItem_close true hClose]
  | @container frame text items ih =>
    intro before stack rest hBefore hRest
    have hOpening := skipBlanks_append_cons hBefore frame.opening_not_blank
    obtain ⟨c, more, hHead, hc⟩ := items.items_head (frame.close :: rest)
    -- The blanks before the first item are gone when the item is skipped.
    rw [List.cons_append, List.append_assoc, List.singleton_append, skipValue_opening (hOpening _),
      skipItem_first hHead hc, ← hHead, skipEntry_skipBlanks, ih]
  | @item frame key before text after isKey hBefore value hAfter ih =>
    intro stack rest
    have hClose := skipBlanks_append_cons hAfter frame.close_not_blank rest
    simp only [List.append_assoc]
    rw [isKey.skipEntry_eq, ih before _ _ hBefore (.append hAfter (.close frame rest)),
      skipAfter_cons, skipItem_close false hClose]
  | @items frame key before text after more isKey hBefore value hAfter items ih ih' =>
    intro stack rest
    have hComma :=
      skipBlanks_append_cons hAfter (c := ',') (by decide) (more ++ frame.close :: rest)
    simp only [List.append_assoc, List.cons_append]
    rw [isKey.skipEntry_eq, ih before _ _ hBefore (.append hAfter (.comma _)), skipAfter_cons,
      skipItem_comma hComma, ih']

/-- A value that nobody asks for is passed over, and nothing behind it. -/
theorem Written.skipValue_eq {text : List Char} (h : Written .value text) {before rest : List Char}
    (hBefore : Blanks before) (hRest : Delimited rest) :
    skipValue [] (before ++ (text ++ rest)) = .ok rest := by
  have hSkipped := h.skipped before [] rest hBefore hRest
  rwa [skipAfter] at hSkipped

end Keychord.Json
