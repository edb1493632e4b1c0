import Keychord.Config.Reader
import Keychord.Config.Writer
import Keychord.Proofs.Json.Values

/-!
# A configuration is read back

A configuration can be written in many ways: the settings in any order and in any spelling, members
with other names among them, blanks around every token, or the texts of the first settings in a
list.  Whichever it is, what is read has the texts that are written, and the default for every
other setting.  The members are taken one by one, so the settings that have been read grow by those
of one member at a time (`Draft.add`).
-/

namespace Keychord.Config

open Json

/-! ## The texts of configurations -/

/-- What a member stands for: a setting and its text, or nothing. -/
inductive Setting : String → List (Field × String) → List Char → Prop
  | known (f : Field) {value : String} {text : List Char} (literal : Literal text value) :
      Setting f.name [(f, value)] text
  | other {name : String} {text : List Char} (unknown : ∀ f : Field, f.name ≠ name)
      (value : Written .value text) : Setting name [] text

/-- One member of an object. -/
inductive Member : List (Field × String) → List Char → Prop
  | mk {settings : List (Field × String)} {name : String}
      {before key colon before' text after : List Char} (hBefore : Blanks before)
      (isKey : Literal key name) (hColon : Blanks colon)
      (hBefore' : Blanks before') (setting : Setting name settings text) (hAfter : Blanks after) :
      Member settings (before ++ (key ++ (colon ++ ':' :: (before' ++ (text ++ after)))))

/-- The members of an object, and the settings among them. -/
inductive Members : List (Field × String) → List Char → Prop
  | one {settings : List (Field × String)} {text : List Char} (member : Member settings text) :
      Members settings text
  | cons {settings settings' : List (Field × String)} {text more : List Char}
      (member : Member settings text) (members : Members settings' more) :
      Members (settings ++ settings') (text ++ ',' :: more)

/-- An object, and the settings among its members. -/
inductive ObjectText : List (Field × String) → List Char → Prop
  | empty {before blanks after : List Char} (hBefore : Blanks before) (hBlanks : Blanks blanks)
      (hAfter : Blanks after) : ObjectText [] (before ++ '{' :: (blanks ++ '}' :: after))
  | members {settings : List (Field × String)} {before text after : List Char}
      (hBefore : Blanks before) (members : Members settings text) (hAfter : Blanks after) :
      ObjectText settings (before ++ '{' :: (text ++ '}' :: after))

/-- The elements of a list of strings. -/
inductive Elements : List String → List Char → Prop
  | one {value : String} {before text after : List Char} (hBefore : Blanks before)
      (literal : Literal text value) (hAfter : Blanks after) :
      Elements [value] (before ++ (text ++ after))
  | cons {value : String} {values : List String} {before text after more : List Char}
      (hBefore : Blanks before) (literal : Literal text value) (hAfter : Blanks after)
      (elements : Elements values more) :
      Elements (value :: values) (before ++ (text ++ (after ++ ',' :: more)))

/-- A list of strings. -/
inductive ListText : List String → List Char → Prop
  | empty {before blanks after : List Char} (hBefore : Blanks before) (hBlanks : Blanks blanks)
      (hAfter : Blanks after) : ListText [] (before ++ '[' :: (blanks ++ ']' :: after))
  | elements {values : List String} {before text after : List Char} (hBefore : Blanks before)
      (elements : Elements values text) (hAfter : Blanks after) :
      ListText values (before ++ '[' :: (text ++ ']' :: after))

/-! ## The settings that have been read -/

namespace Draft

/-- More settings have been read. -/
def add (d : Draft) (settings : List (Field × String)) : Draft :=
  settings.foldl (fun d setting => d.set setting.1 setting.2) d

theorem add_append (d : Draft) (settings settings' : List (Field × String)) :
    d.add (settings ++ settings') = (d.add settings).add settings' :=
  List.foldl_append

theorem add_of_not_mem {d : Draft} {settings : List (Field × String)} {f : Field}
    (h : f ∉ settings.map Prod.fst) : d.add settings f = d f := by
  induction settings generalizing d with
  | nil => rfl
  | cons setting settings ih =>
    rw [List.map_cons, List.mem_cons, not_or] at h
    rw [add, List.foldl_cons, ← add, ih h.2, set, if_neg h.1]

theorem add_eq_lookup {settings : List (Field × String)} (h : (settings.map Prod.fst).Nodup)
    (d : Draft) (f : Field) : d.add settings f = (settings.lookup f).or (d f) := by
  induction settings generalizing d with
  | nil => rfl
  | cons setting settings ih =>
    obtain ⟨g, value⟩ := setting
    rw [List.map_cons, List.nodup_cons] at h
    rw [add, List.foldl_cons, ← add]
    by_cases hf : f = g
    · subst hf
      rw [add_of_not_mem h.1, List.lookup_cons_self, set, if_pos rfl]
      rfl
    · rw [ih h.2, set, if_neg hf, List.lookup_cons, beq_false_of_ne hf]

theorem get_config (d : Draft) (f : Field) : d.config.get f = (d f).getD (({} : Config).get f) := by
  cases f <;> rfl

end Draft

/-! ## Strings and settings -/

theorem readText_literal {before text : List Char} {value : String} (hBefore : Blanks before)
    (literal : Literal text value) (rest : List Char) :
    readText (before ++ (text ++ rest)) = .ok (value, rest) := by
  obtain ⟨spelling⟩ := literal
  rw [readText, List.cons_append, skipBlanks_append_cons hBefore (by decide), List.append_assoc]
  exact spelling.readString_eq rest

theorem Field.ofName?_name (f : Field) : Field.ofName? f.name = some f := by
  cases f <;> decide

theorem Field.ofName?_eq_none {name : String} (h : ∀ f : Field, f.name ≠ name) :
    Field.ofName? name = none := by
  simp [Field.ofName?, h]

theorem Setting.readMember_eq {name : String} {settings : List (Field × String)}
    {colon before text rest : List Char} (h : Setting name settings text) {d : Draft}
    (hColon : Blanks colon) (hBefore : Blanks before) (hRest : Delimited rest)
    (hNew : ∀ f ∈ settings.map Prod.fst, d f = none) :
    readMember d name (colon ++ ':' :: (before ++ (text ++ rest))) =
      .ok (d.add settings, rest) := by
  cases h with
  | known f literal =>
    have hField : d f = none := hNew f (by simp)
    simp only [readMember, Field.ofName?_name, hField, Option.isSome_none, Bool.false_eq_true,
      if_false, readColon_append hColon, readText_literal hBefore literal, bind, Except.bind]
    rfl
  | other unknown value =>
    simp only [readMember, Field.ofName?_eq_none unknown, readColon_append hColon,
      value.skipValue_eq hBefore hRest, bind, Except.bind]
    rfl

/-! ## Items -/

/-- What stands before an item that is the first, or another one. -/
inductive Lead : Bool → List Char → Prop
  | first : Lead true []
  | next {blanks : List Char} (hBlanks : Blanks blanks) : Lead false (blanks ++ [','])

theorem Lead.readKey_eq {isFirst : Bool} {lead before key : List Char} {name : String}
    (h : Lead isFirst lead) (hBefore : Blanks before) (isKey : Literal key name)
    (rest : List Char) :
    readKey isFirst (lead ++ (before ++ (key ++ rest))) = .ok (some name, rest) := by
  obtain ⟨spelling⟩ := isKey
  have hString := spelling.readString_eq rest
  have hQuote := skipBlanks_append_cons hBefore (c := '"') (by decide)
  cases h with
  | first => simp [readKey, hQuote, hString, Except.map]
  | next hBlanks =>
    have hComma := skipBlanks_append_cons hBlanks (c := ',') (by decide)
    simp [readKey, hComma, hQuote, hString, Except.map]

theorem readMembers_end (isFirst : Bool) (d : Draft) {blanks : List Char} (hBlanks : Blanks blanks)
    (rest : List Char) : readMembers isFirst d (blanks ++ '}' :: rest) = .ok (d, rest) := by
  have hKey : readKey isFirst (blanks ++ '}' :: rest) = .ok (none, rest) := by
    rw [readKey, skipBlanks_append_cons hBlanks (by decide)]
    rfl
  rw [readMembers]
  split <;> simp_all

theorem readMembers_step {isFirst : Bool} {d d' : Draft} {name : String}
    {text rest rest' : List Char} (hKey : readKey isFirst text = .ok (some name, rest))
    (hMember : readMember d name rest = .ok (d', rest')) :
    readMembers isFirst d text = readMembers false d' rest' := by
  rw [readMembers]
  split
  · simp_all
  · simp_all
  · split <;> simp_all

theorem Member.readMembers_eq {settings : List (Field × String)} {text lead rest : List Char}
    (h : Member settings text) {isFirst : Bool} {d : Draft} (hLead : Lead isFirst lead)
    (hNew : ∀ f ∈ settings.map Prod.fst, d f = none) (hRest : Delimited rest) :
    ∃ after, Blanks after ∧ readMembers isFirst d (lead ++ (text ++ rest)) =
      readMembers false (d.add settings) (after ++ rest) := by
  cases h with
  | mk hBefore isKey hColon hBefore' setting hAfter =>
    refine ⟨_, hAfter, ?_⟩
    simp only [List.append_assoc, List.cons_append]
    exact readMembers_step (hLead.readKey_eq hBefore isKey _)
      (setting.readMember_eq hColon hBefore' (.append hAfter hRest) hNew)

theorem Members.readMembers_eq {settings : List (Field × String)} {text : List Char}
    (h : Members settings text) {isFirst : Bool} {d : Draft} {lead : List Char}
    (hLead : Lead isFirst lead) (hNodup : (settings.map Prod.fst).Nodup)
    (hNew : ∀ f ∈ settings.map Prod.fst, d f = none) (rest : List Char) :
    readMembers isFirst d (lead ++ (text ++ '}' :: rest)) = .ok (d.add settings, rest) := by
  induction h generalizing isFirst d lead with
  | one member =>
    obtain ⟨after, hAfter, hStep⟩ := member.readMembers_eq hLead hNew (.close .object rest)
    exact hStep.trans (readMembers_end false _ hAfter rest)
  | @cons settings settings' text more member members ih =>
    rw [List.map_append, List.nodup_append] at hNodup
    simp only [List.map_append, List.mem_append, or_imp, forall_and] at hNew
    obtain ⟨after, hAfter, hStep⟩ :=
      member.readMembers_eq hLead hNew.1 (.comma (more ++ '}' :: rest))
    -- No setting is given twice, so those behind are still unread.
    have hNew' : ∀ f ∈ settings'.map Prod.fst, d.add settings f = none := by
      intro f hf
      rw [Draft.add_of_not_mem fun hf' => hNodup.2.2 f hf' f hf rfl, hNew.2 f hf]
    have hMore := ih (.next hAfter) hNodup.2.1 hNew'
    rw [List.append_assoc, List.cons_append, hStep, Draft.add_append, ← hMore]
    simp only [List.append_assoc, List.cons_append, List.nil_append]

/-! ## Lists -/

theorem Lead.readElement_eq {isFirst : Bool} {lead before text : List Char} {value : String}
    (h : Lead isFirst lead) (hBefore : Blanks before) (literal : Literal text value)
    (rest : List Char) :
    readElement isFirst (lead ++ (before ++ (text ++ rest))) = .ok (some (text ++ rest)) := by
  obtain ⟨spelling⟩ := literal
  have hQuote := skipBlanks_append_cons hBefore (c := '"') (by decide)
  cases h with
  | first => simp [readElement, hQuote]
  | next hBlanks =>
    have hComma := skipBlanks_append_cons hBlanks (c := ',') (by decide)
    simp [readElement, hComma, hQuote]

theorem readElements_end (isFirst : Bool) (d : Draft) (fields : List Field) {blanks : List Char}
    (hBlanks : Blanks blanks) (rest : List Char) :
    readElements isFirst d fields (blanks ++ ']' :: rest) = .ok (d, blanks ++ ']' :: rest) := by
  cases fields with
  | nil => rfl
  | cons f fields =>
    simp only [readElements, readElement, skipBlanks_append_cons hBlanks (c := ']') (by decide)]
    rfl

/-- The elements of a list go to the first settings, up to the blanks behind the last one. -/
theorem Elements.readElements_eq {values : List String} {text : List Char}
    (h : Elements values text) {isFirst : Bool} {d : Draft} {lead : List Char}
    {fields : List Field} (hLead : Lead isFirst lead) (hLength : values.length ≤ fields.length)
    (rest : List Char) :
    ∃ after, Blanks after ∧ readElements isFirst d fields (lead ++ (text ++ ']' :: rest)) =
      .ok (d.add (fields.zip values), after ++ ']' :: rest) := by
  induction h generalizing isFirst d lead fields with
  | @one value before text after hBefore literal hAfter =>
    obtain ⟨f, fields, rfl⟩ := List.exists_cons_of_length_pos (l := fields)
      (Nat.lt_of_lt_of_le (Nat.zero_lt_succ _) hLength)
    refine ⟨after, hAfter, ?_⟩
    have hText := readText_literal Blanks.nil literal (after ++ ']' :: rest)
    rw [List.nil_append] at hText
    simp only [List.append_assoc, readElements, hLead.readElement_eq hBefore literal, hText, bind,
      Except.bind, readElements_end false _ fields hAfter]
    rw [List.zip_cons_cons, List.zip_nil_right]
    rfl
  | @cons value values before text after more hBefore literal hAfter elements ih =>
    obtain ⟨f, fields, rfl⟩ := List.exists_cons_of_length_pos (l := fields)
      (Nat.lt_of_lt_of_le (Nat.zero_lt_succ _) hLength)
    obtain ⟨after', hAfter', hMore⟩ :=
      ih (d := d.set f value) (.next hAfter) (Nat.le_of_succ_le_succ hLength)
    refine ⟨after', hAfter', ?_⟩
    have hText := readText_literal Blanks.nil literal (after ++ ',' :: (more ++ ']' :: rest))
    rw [List.nil_append] at hText
    simp only [List.append_assoc, List.cons_append, List.nil_append] at hMore
    simp only [List.append_assoc, List.cons_append, readElements,
      hLead.readElement_eq hBefore literal, hText, bind, Except.bind, hMore]
    rfl

theorem readListEnd_append {blanks : List Char} (hBlanks : Blanks blanks) (rest : List Char) :
    readListEnd (blanks ++ ']' :: rest) = .ok rest := by
  rw [readListEnd, skipBlanks_append_cons hBlanks (by decide)]
  rfl

/-! ## Configurations -/

theorem read_of_readDraft {text after : List Char} {d : Draft}
    (h : readDraft text = .ok (d, after)) (hAfter : Blanks after) : read text = .ok d.config := by
  have hEnd : skipBlanks after = [] := by
    rw [← List.append_nil after, skipBlanks_append hAfter]
    rfl
  simp only [read, h, bind, Except.bind, hEnd]
  rfl

theorem ObjectText.read_eq {settings : List (Field × String)} {text : List Char}
    (h : ObjectText settings text) (hNodup : (settings.map Prod.fst).Nodup) :
    read text = .ok (Draft.empty.add settings).config := by
  cases h with
  | @empty before blanks after hBefore hBlanks hAfter =>
    refine read_of_readDraft ?_ hAfter
    rw [readDraft, skipBlanks_append_cons hBefore (by decide)]
    exact readMembers_end true .empty hBlanks after
  | @members settings before text after hBefore members hAfter =>
    refine read_of_readDraft ?_ hAfter
    rw [readDraft, skipBlanks_append_cons hBefore (by decide)]
    exact members.readMembers_eq .first hNodup (fun f _ => rfl) after

theorem ListText.read_eq {values : List String} {text : List Char} (h : ListText values text)
    (hLength : values.length ≤ 4) :
    read text = .ok (Draft.empty.add (Field.all.zip values)).config := by
  cases h with
  | @empty before blanks after hBefore hBlanks hAfter =>
    refine read_of_readDraft ?_ hAfter
    rw [readDraft, skipBlanks_append_cons hBefore (by decide)]
    simp only [readElements_end true .empty Field.all hBlanks, readListEnd_append hBlanks, bind,
      Except.bind]
    rfl
  | @elements values before text after hBefore elements hAfter =>
    refine read_of_readDraft ?_ hAfter
    have hFields : values.length ≤ Field.all.length := hLength
    obtain ⟨blanks, hBlanks, hElements⟩ :=
      elements.readElements_eq (d := .empty) .first hFields after
    rw [List.nil_append] at hElements
    rw [readDraft, skipBlanks_append_cons hBefore (by decide)]
    simp only [hElements, readListEnd_append hBlanks, bind, Except.bind]
    rfl

theorem ofJson_of_read {text : String} {c : Config} (h : read text.toList = .ok c) :
    ofJson text = c.validate.map fun _ => c := by
  simp only [ofJson, h]
  cases c.validate <;> rfl

/-! ## Writing -/

theorem hex_of_lt {n : Nat} (h : n < 0x100) :
    Hex ['0', '0', (n / 16).digitChar, (n % 16).digitChar] n := by
  have hZero : IsHexDigit '0' 0 := ⟨by decide, .inl rfl⟩
  have hHigh : IsHexDigit (n / 16).digitChar (n / 16) := ⟨by omega, .inl rfl⟩
  have hLow : IsHexDigit (n % 16).digitChar (n % 16) := ⟨by omega, .inl rfl⟩
  have hHex := Hex.mk hZero hZero hHigh hLow
  rwa [show 0 * 0x1000 + 0 * 0x100 + n / 16 * 0x10 + n % 16 = n by omega] at hHex

theorem jsonChar_spelling (c : Char) : CharSpelling (jsonChar c) c := by
  unfold jsonChar
  split
  case h_8 hQuote hBackslash _ _ _ _ _ =>
    split
    · next hControl => exact .unit (hex_of_lt (by omega))
    · next hControl => exact .plain ⟨Nat.not_lt.mp hControl, hQuote, hBackslash⟩
  all_goals exact .letter (by decide)

theorem flatMap_jsonChar_spelling (chars : List Char) :
    Spelling (chars.flatMap jsonChar) chars := by
  induction chars with
  | nil => exact .nil
  | cons c chars ih =>
    rw [List.flatMap_cons]
    exact .cons (jsonChar_spelling c) ih

theorem jsonString_literal (s : String) : Literal (jsonString s) s :=
  .mk (flatMap_jsonChar_spelling s.toList)

theorem jsonMember_member (c : Config) (f : Field) : Member [(f, c.get f)] (c.jsonMember f) := by
  have hMember := Member.mk .nil (jsonString_literal f.name) .nil .nil
    (.known f (jsonString_literal (c.get f))) .nil
  simpa only [jsonMember, List.nil_append, List.append_nil] using hMember

theorem toJson_objectText (c : Config) :
    ObjectText (Field.all.map fun f => (f, c.get f)) c.toJson.toList := by
  have hMembers := Members.cons (jsonMember_member c .literalEscape) <|
    .cons (jsonMember_member c .metaTrigger) <|
      .cons (jsonMember_member c .controlMetaTrigger) <| .one (jsonMember_member c .logLevel)
  have hObject := ObjectText.members .nil hMembers .nil
  rw [toJson, String.toList_ofList]
  simpa [Field.all, List.intercalate] using hObject

theorem get_injective {c c' : Config} (h : ∀ f, c.get f = c'.get f) : c = c' := by
  obtain ⟨_, _, _, _⟩ := c
  obtain ⟨_, _, _, _⟩ := c'
  simpa [get] using And.intro (h .literalEscape)
    ⟨h .metaTrigger, h .controlMetaTrigger, h .logLevel⟩

theorem ObjectText.exists_ofJson_eq {text : String} {settings : List (Field × String)}
    (h : ObjectText settings text.toList) (hNodup : (settings.map Prod.fst).Nodup) :
    ∃ c : Config, (∀ f, c.get f = (settings.lookup f).getD (({} : Config).get f)) ∧
      ofJson text = c.validate.map fun _ => c := by
  refine ⟨(Draft.empty.add settings).config, fun f => ?_, ofJson_of_read (h.read_eq hNodup)⟩
  rw [Draft.get_config, Draft.add_eq_lookup hNodup, Draft.empty, Option.or_none]

/-- A configuration that is written is read back. -/
theorem ofJson_toJson (c : Config) : ofJson c.toJson = c.validate.map fun _ => c := by
  have hNodup : ((Field.all.map fun f => (f, c.get f)).map Prod.fst).Nodup := by
    change Field.all.Nodup
    decide
  obtain ⟨c', hGet, hJson⟩ := c.toJson_objectText.exists_ofJson_eq hNodup
  have hSame : c' = c := get_injective fun f => by
    rw [hGet]
    cases f <;> rfl
  rw [hJson, hSame]

theorem nodup_zip (values : List String) : ((Field.all.zip values).map Prod.fst).Nodup := by
  have hAll : Field.all.Nodup := by decide
  rw [List.zip_eq_zip_take_min, List.map_fst_zip (by simp)]
  exact hAll.sublist (List.take_sublist ..)

/-- What is read of an object has the texts of the settings that it gives, and the default for the
others.  So a configuration that is written is read back, and a list of texts is read as the object
that gives them to the first settings. -/
theorem ofJson_reads_back :
    (∀ text settings, ObjectText settings text.toList → (settings.map Prod.fst).Nodup →
      ∃ c : Config, (∀ f, c.get f = (settings.lookup f).getD (({} : Config).get f)) ∧
        ofJson text = c.validate.map fun _ => c) ∧
    (∀ c : Config, ofJson c.toJson = c.validate.map fun _ => c) ∧
    (∀ list object values, values.length ≤ 4 → ListText values list.toList →
      ObjectText (Field.all.zip values) object.toList → ofJson list = ofJson object) := by
  refine ⟨fun text settings hText hNodup => hText.exists_ofJson_eq hNodup, ofJson_toJson,
    fun list object values hLength hList hObject => ?_⟩
  rw [ofJson_of_read (hList.read_eq hLength), ofJson_of_read (hObject.read_eq (nodup_zip values))]

/-- Another member holds a number, a list and half of a surrogate pair, all of which are passed
over; the name and the text of the setting are escaped. -/
theorem ofJson_skips_and_unescapes :
    let text := "\x7b\"x\":[-1.5e3, \x7b\"a\\ud834\":[]\x7d], " ++
      "\"meta_tr\\u0069gger\" :\"\\uD834\\udd1E\" \x7d"
    let settings := [(Field.metaTrigger, "𝄞")]
    ObjectText settings text.toList ∧ (settings.map Prod.fst).Nodup ∧
      ofJson text = .ok { metaTrigger := "𝄞" } := by
  intro text settings
  have hBlank : Blanks [' '] := by decide
  have hNumeral : Numeral (['-'] ++ (['1'] ++ (['.', '5'] ++ 'e' :: ([] ++ ['3'])))) :=
    .mk (by decide) (.digits (by decide) (by decide)) (.some (by decide))
      (.some (by decide) (by decide) (by decide))
  have hLow : Hex ['d', '8', '3', '4'] (0xD800 + 0x34) :=
    @Hex.mk _ _ _ _ 13 8 3 4 (by decide) (by decide) (by decide) (by decide)
  have hLeading : Hex ['D', '8', '3', '4'] (0xD800 + 0x34) :=
    @Hex.mk _ _ _ _ 13 8 3 4 (by decide) (by decide) (by decide) (by decide)
  have hTrailing : Hex ['d', 'd', '1', 'E'] (0xDC00 + 0x11E) :=
    @Hex.mk _ _ _ _ 13 13 1 14 (by decide) (by decide) (by decide) (by decide)
  have hLetter : Hex ['0', '0', '6', '9'] 'i'.toNat :=
    @Hex.mk _ _ _ _ 0 0 6 9 (by decide) (by decide) (by decide) (by decide)
  have hOther : Literal ('"' :: (['x'] ++ ['"'])) "x" := .mk (.plain (by simp [IsPlain]))
  have hItem := Written.item (.object .nil (.plain (c := 'a') (by decide) (.unit hLow .nil)) .nil)
    .nil (.empty .list .nil) .nil
  have hSkipped := Written.container (.items .list .nil (.scalar (.numeral hNumeral)) .nil
    (.item .list hBlank (.container hItem) .nil))
  have hName : Literal ('"' :: ((['m', 'e', 't', 'a', '_', 't', 'r'] ++
      ('\\' :: 'u' :: ['0', '0', '6', '9'] ++ ['g', 'g', 'e', 'r'])) ++ ['"']))
      Field.metaTrigger.name :=
    .mk (.append (.plain (by simp [IsPlain])) (.cons (.unit hLetter) (.plain (by simp [IsPlain]))))
  have hValue := Literal.mk (s := "𝄞")
    (.cons (.pair (by decide) (by decide) hLeading hTrailing rfl) .nil)
  have hMember := Member.mk .nil hOther .nil .nil
    (.other (fun f => by cases f <;> decide) hSkipped) .nil
  have hMember' := Member.mk hBlank hName hBlank .nil (.known .metaTrigger hValue) hBlank
  have hText : ObjectText settings text.toList := by
    rw [show text.toList = _ from String.toList_append]
    exact ObjectText.members .nil (.cons hMember (.one hMember')) .nil
  refine ⟨hText, by decide, ?_⟩
  obtain ⟨c, hGet, hJson⟩ := ofJson_reads_back.1 text settings hText (by decide)
  have hConfig : c = { metaTrigger := "𝄞" } := get_injective fun f => by
    rw [hGet]
    cases f <;> rfl
  rw [hJson, hConfig]
  decide +kernel

end Keychord.Config
