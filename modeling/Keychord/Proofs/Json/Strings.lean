import Keychord.Json.Literal

/-!
# Spellings of strings

A character of a string stands for itself, or it is escaped by a letter, by the four hexadecimal
digits of its code point, or by those of its surrogate pair (`CharSpelling`).  Reading a string
gives back what is spelled, however it is spelled (`Spelling.readString_eq`).  A string that is
skipped may hold any four digits (`Contents`).
-/

namespace Keychord.Json

/-! ## Blanks -/

/-- Blanks may stand around every token. -/
def Blanks (text : List Char) : Prop := ∀ c ∈ text, c ∈ [' ', '\n', '\t', '\r']

instance (text : List Char) : Decidable (Blanks text) :=
  List.decidableBAll _ text

theorem Blanks.nil : Blanks [] := by decide

theorem isBlank_iff {c : Char} : isBlank c = true ↔ c ∈ [' ', '\n', '\t', '\r'] := by
  simp [isBlank, or_assoc]

theorem skipBlanks_append {blanks : List Char} (h : Blanks blanks) (rest : List Char) :
    skipBlanks (blanks ++ rest) = skipBlanks rest :=
  List.dropWhile_append_of_pos fun c hc => isBlank_iff.mpr (h c hc)

theorem skipBlanks_cons {c : Char} (h : c ∉ [' ', '\n', '\t', '\r']) (rest : List Char) :
    skipBlanks (c :: rest) = c :: rest :=
  List.dropWhile_cons_of_neg fun hc => h (isBlank_iff.mp hc)

theorem skipBlanks_append_cons {blanks : List Char} {c : Char} (h : Blanks blanks)
    (hc : c ∉ [' ', '\n', '\t', '\r']) (rest : List Char) :
    skipBlanks (blanks ++ c :: rest) = c :: rest := by
  rw [skipBlanks_append h, skipBlanks_cons hc]

/-! ## Hexadecimal digits -/

/-- A hexadecimal digit in either case. -/
def IsHexDigit (c : Char) (n : Nat) : Prop :=
  n < 16 ∧ (c = n.digitChar ∨ c = n.digitChar.toUpper)

instance (c : Char) (n : Nat) : Decidable (IsHexDigit c n) := inferInstanceAs (Decidable (_ ∧ _))

/-- Four hexadecimal digits. -/
inductive Hex : List Char → Nat → Prop
  | mk {a b c d : Char} {i j k l : Nat} (first : IsHexDigit a i) (second : IsHexDigit b j)
      (third : IsHexDigit c k) (fourth : IsHexDigit d l) :
      Hex [a, b, c, d] (i * 0x1000 + j * 0x100 + k * 0x10 + l)

theorem hexDigit?_digitChar :
    ∀ n < 16, hexDigit? n.digitChar = some n ∧ hexDigit? n.digitChar.toUpper = some n := by
  decide

theorem IsHexDigit.hexDigit?_eq {c : Char} {n : Nat} (h : IsHexDigit c n) :
    hexDigit? c = some n := by
  obtain ⟨hSmall, rfl | rfl⟩ := h
  · exact (hexDigit?_digitChar n hSmall).1
  · exact (hexDigit?_digitChar n hSmall).2

theorem Hex.readHex_eq {digits : List Char} {n : Nat} (h : Hex digits n) (rest : List Char) :
    readHex (digits ++ rest) = .ok (n, rest) := by
  obtain ⟨ha, hb, hc, hd⟩ := h
  simp only [List.cons_append, List.nil_append, readHex, hexValue?, ha.hexDigit?_eq,
    hb.hexDigit?_eq, hc.hexDigit?_eq, hd.hexDigit?_eq, Option.bind_eq_bind, Option.bind_some,
    Option.pure_def, Except.ok.injEq, Prod.mk.injEq, and_true]
  omega

/-! ## Characters -/

/-- The letters that can stand behind a backslash, each with the character that it escapes. -/
def letterEscapes : List (Char × Char) :=
  [('"', '"'), ('\\', '\\'), ('/', '/'), ('b', '\x08'), ('f', '\x0c'), ('n', '\n'), ('r', '\r'),
    ('t', '\t')]

/-- A character that may stand for itself. -/
def IsPlain (c : Char) : Prop := 0x20 ≤ c.toNat ∧ c ≠ '"' ∧ c ≠ '\\'

instance (c : Char) : Decidable (IsPlain c) := inferInstanceAs (Decidable (_ ∧ _))

/-- The spellings of a character. -/
inductive CharSpelling : List Char → Char → Prop
  | plain {c : Char} (isPlain : IsPlain c) : CharSpelling [c] c
  | letter {letter c : Char} (escape : (letter, c) ∈ letterEscapes) : CharSpelling ['\\', letter] c
  | unit {digits : List Char} {c : Char} (hex : Hex digits c.toNat) :
      CharSpelling ('\\' :: 'u' :: digits) c
  | pair {digits digits' : List Char} {c : Char} {m n : Nat} (hm : m < 0x400) (hn : n < 0x400)
      (leading : Hex digits (0xD800 + m)) (trailing : Hex digits' (0xDC00 + n))
      (value : c.toNat = 0x10000 + m * 0x400 + n) :
      CharSpelling ('\\' :: 'u' :: (digits ++ '\\' :: 'u' :: digits')) c

theorem toNat_valid (c : Char) :
    c.toNat < 0xD800 ∨ 0xDFFF < c.toNat ∧ c.toNat < 0x110000 := c.valid

theorem not_isLeading_toNat (c : Char) : isLeading c.toNat = false := by
  have := toNat_valid c
  simp only [isLeading, Bool.and_eq_false_iff, decide_eq_false_iff_not]
  omega

theorem not_isTrailing_toNat (c : Char) : isTrailing c.toNat = false := by
  have := toNat_valid c
  simp only [isTrailing, Bool.and_eq_false_iff, decide_eq_false_iff_not]
  omega

theorem letterEscapes_simpleEscape? :
    ∀ entry ∈ letterEscapes, entry.1 ≠ 'u' ∧ simpleEscape? entry.1 = some entry.2 := by
  decide

theorem readEscape_letter {letter c : Char} (h : (letter, c) ∈ letterEscapes) (rest : List Char) :
    readEscape (letter :: rest) = .ok (c, rest) := by
  obtain ⟨hLetter, hEscape⟩ := letterEscapes_simpleEscape? _ h
  rw [readEscape, hEscape]
  exact hLetter

theorem readEscape_unit {digits : List Char} {c : Char} (hex : Hex digits c.toNat)
    (rest : List Char) : readEscape ('u' :: (digits ++ rest)) = .ok (c, rest) := by
  rw [readEscape, hex.readHex_eq]
  simp only [bind, Except.bind, not_isTrailing_toNat, not_isLeading_toNat, Char.ofNat_toNat]
  rfl

theorem readEscape_pair {digits digits' : List Char} {c : Char} {m n : Nat} (hm : m < 0x400)
    (hn : n < 0x400) (leading : Hex digits (0xD800 + m)) (trailing : Hex digits' (0xDC00 + n))
    (value : c.toNat = 0x10000 + m * 0x400 + n) (rest : List Char) :
    readEscape ('u' :: (digits ++ '\\' :: 'u' :: (digits' ++ rest))) = .ok (c, rest) := by
  have hNotTrailing : isTrailing (0xD800 + m) = false := by
    simp only [isTrailing, Bool.and_eq_false_iff, decide_eq_false_iff_not]
    omega
  have hLeading : isLeading (0xD800 + m) = true := by
    simp only [isLeading, Bool.and_eq_true, decide_eq_true_eq]
    omega
  have hTrailing : isTrailing (0xDC00 + n) = true := by
    simp only [isTrailing, Bool.and_eq_true, decide_eq_true_eq]
    omega
  have hPair : pairChar (0xD800 + m) (0xDC00 + n) = c := by
    rw [pairChar, Nat.add_sub_cancel_left, Nat.add_sub_cancel_left, ← value, Char.ofNat_toNat]
  rw [readEscape, leading.readHex_eq]
  simp only [bind, Except.bind, hNotTrailing, hLeading, Bool.false_eq_true, if_false, if_true]
  rw [readTrailing, trailing.readHex_eq]
  simp only [bind, Except.bind, hTrailing, if_true, hPair]

/-! ## Strings that are read -/

/-- The spellings of a row of characters. -/
inductive Spelling : List Char → List Char → Prop
  | nil : Spelling [] []
  | cons {text more chars : List Char} {c : Char} (head : CharSpelling text c)
      (tail : Spelling more chars) : Spelling (text ++ more) (c :: chars)

theorem Spelling.append {text text' chars chars' : List Char} (h : Spelling text chars)
    (h' : Spelling text' chars') : Spelling (text ++ text') (chars ++ chars') := by
  induction h with
  | nil => exact h'
  | cons head tail ih =>
    rw [List.append_assoc]
    exact .cons head ih

theorem Spelling.plain {chars : List Char} (h : ∀ c ∈ chars, IsPlain c) : Spelling chars chars := by
  induction chars with
  | nil => exact .nil
  | cons c chars ih =>
    rw [List.forall_mem_cons] at h
    exact .cons (.plain h.1) (ih h.2)

/-- A spelling between quotes. -/
inductive Literal : List Char → String → Prop
  | mk {text : List Char} {s : String} (spelling : Spelling text s.toList) :
      Literal ('"' :: (text ++ ['"'])) s

theorem readStringFrom_escape {escape rest : List Char} {c : Char}
    (h : readEscape escape = .ok (c, rest)) (acc : List Char) :
    readStringFrom acc ('\\' :: escape) = readStringFrom (c :: acc) rest := by
  rw [readStringFrom]
  split
  · next hEscape =>
    rw [h] at hEscape
    injection hEscape with hEscape
    injection hEscape with hChar hRest
    rw [hChar, hRest]
  · next hEscape =>
    rw [h] at hEscape
    contradiction

theorem isControl_of_isPlain {c : Char} (h : IsPlain c) : isControl c = false := by
  simp only [isControl, decide_eq_false_iff_not]
  exact Nat.not_lt.mpr h.1

theorem readStringFrom_plain {c : Char} (h : IsPlain c) (acc text : List Char) :
    readStringFrom acc (c :: text) = readStringFrom (c :: acc) text := by
  rw [readStringFrom, isControl_of_isPlain h]
  · rfl
  · exact h.2.1
  · exact h.2.2

theorem CharSpelling.readStringFrom_eq {text : List Char} {c : Char} (h : CharSpelling text c)
    (acc rest : List Char) :
    readStringFrom acc (text ++ rest) = readStringFrom (c :: acc) rest := by
  cases h with
  | plain isPlain => exact readStringFrom_plain isPlain acc rest
  | letter escape => exact readStringFrom_escape (readEscape_letter escape rest) acc
  | unit hex => exact readStringFrom_escape (readEscape_unit hex rest) acc
  | pair hm hn leading trailing value =>
    have hEscape := readEscape_pair hm hn leading trailing value rest
    simpa only [List.cons_append, List.append_assoc] using readStringFrom_escape hEscape acc

theorem Spelling.readStringFrom_eq {text chars : List Char} (h : Spelling text chars)
    (acc rest : List Char) :
    readStringFrom acc (text ++ '"' :: rest) =
      .ok (String.ofList (acc.reverse ++ chars), rest) := by
  induction h generalizing acc with
  | nil => rw [List.nil_append, readStringFrom, List.append_nil]
  | cons head tail ih =>
    rw [List.append_assoc, head.readStringFrom_eq, ih, List.reverse_cons, List.append_assoc]
    rfl

/-- A string is read back from any of its spellings. -/
theorem Spelling.readString_eq {text : List Char} {s : String} (h : Spelling text s.toList)
    (rest : List Char) : readString (text ++ '"' :: rest) = .ok (s, rest) := by
  rw [readString, h.readStringFrom_eq, List.reverse_nil, List.nil_append, String.ofList_toList]

/-! ## Strings that are skipped -/

/-- What may stand between quotes where nobody asks for it. -/
inductive Contents : List Char → Prop
  | nil : Contents []
  | plain {c : Char} {text : List Char} (isPlain : IsPlain c) (tail : Contents text) :
      Contents (c :: text)
  | letter {letter c : Char} {text : List Char} (escape : (letter, c) ∈ letterEscapes)
      (tail : Contents text) : Contents ('\\' :: letter :: text)
  | unit {digits text : List Char} {n : Nat} (hex : Hex digits n) (tail : Contents text) :
      Contents ('\\' :: 'u' :: (digits ++ text))

theorem skipEscape_letter {letter c : Char} (h : (letter, c) ∈ letterEscapes) (rest : List Char) :
    skipEscape (letter :: rest) = .ok rest := by
  obtain ⟨hLetter, hEscape⟩ := letterEscapes_simpleEscape? _ h
  rw [skipEscape, hEscape]
  · rfl
  · exact hLetter

theorem skipEscape_unit {digits : List Char} {n : Nat} (hex : Hex digits n) (rest : List Char) :
    skipEscape ('u' :: (digits ++ rest)) = .ok rest := by
  rw [skipEscape, hex.readHex_eq]
  rfl

theorem skipString_escape {escape rest : List Char} (h : skipEscape escape = .ok rest) :
    skipString ('\\' :: escape) = skipString rest := by
  rw [skipString]
  split
  · next hEscape =>
    rw [h] at hEscape
    injection hEscape with hEscape
    rw [hEscape]
  · next hEscape =>
    rw [h] at hEscape
    contradiction

theorem Contents.skipString_eq {text : List Char} (h : Contents text) (rest : List Char) :
    skipString (text ++ '"' :: rest) = .ok rest := by
  induction h with
  | nil => rw [List.nil_append, skipString]
  | @plain c text isPlain tail ih =>
    rw [List.cons_append, skipString, isControl_of_isPlain isPlain, ih]
    · rfl
    · exact isPlain.2.1
    · exact isPlain.2.2
  | letter escape tail ih =>
    rw [List.cons_append, List.cons_append, skipString_escape (skipEscape_letter escape _), ih]
  | @unit digits text n hex tail ih =>
    rw [List.cons_append, List.cons_append, List.append_assoc,
      skipString_escape (skipEscape_unit hex _), ih]

end Keychord.Json
