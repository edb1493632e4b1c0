import Mathlib.Data.List.Forall2
import Keychord.Log.Logger

/-!
# What a log file holds

A record that passes the filter adds its line to the log file (`appendTo_of_enabled`), and any other
record adds nothing.  So after any run of records the file holds what it held before and then the
lines of the records that pass, in their order.  A file that is not there is made by the first line.
What it held before may be any bytes.
-/

namespace Keychord.Log

/-! ## Levels -/

/-- The levels in their order. -/
def Level.all : List Level := [.error, .warn, .info, .debug, .trace]

/-- The levels at or below a filter. -/
def Filter.levels : Filter → List Level
  | .off => []
  | .upTo greatest => Level.all.takeWhile (· ≠ greatest) ++ [greatest]

theorem Filter.allows_iff {f : Filter} {level : Level} :
    f.allows level = true ↔ level ∈ f.levels := by
  cases f with
  | off => simp [allows, levels]
  | upTo greatest => cases greatest <;> cases level <;> decide

theorem Record.showsPlace_iff {r : Record} : r.showsPlace = true ↔ r.level ∈ [.debug, .trace] := by
  cases hLevel : r.level <;> simp [showsPlace, hLevel, Level.rank]

/-! ## Lines -/

/-- The line of a record: at the two most detailed levels its place stands behind the message, if
the record tells both file and line. -/
inductive Record.Line (r : Record) : String → Prop
  | placed {file : String} {line : Nat} (detailed : r.level ∈ [.debug, .trace])
      (hasFile : r.file = some file) (hasLine : r.line = some line) :
      r.Line (r.level.name ++ ": " ++ r.message ++ " at " ++ file ++ ":" ++ toString line)
  | plain (noPlace : r.level ∉ [.debug, .trace] ∨ r.file = none ∨ r.line = none) :
      r.Line (r.level.name ++ ": " ++ r.message)

theorem Record.line_text (r : Record) : r.Line r.text := by
  unfold text
  cases hFile : r.file with
  | none => exact .plain (Or.inr (Or.inl hFile))
  | some file =>
    cases hLine : r.line with
    | none => exact .plain (Or.inr (Or.inr hLine))
    | some line =>
      by_cases hShown : r.showsPlace = true
      · simp only [if_pos hShown]
        exact .placed (showsPlace_iff.mp hShown) hFile hLine
      · simp only [if_neg hShown]
        exact .plain (Or.inl (mt showsPlace_iff.mpr hShown))

/-- Lines in a file, each with the line feed that ends it. -/
def fileText (lines : List String) : String := String.join (lines.map (· ++ "\n"))

theorem toUTF8_fileText_cons (line : String) (lines : List String) :
    (fileText (line :: lines)).toUTF8 = (line ++ "\n").toUTF8 ++ (fileText lines).toUTF8 := by
  rw [fileText, List.map_cons, String.join_cons]
  exact String.toByteArray_append

namespace Logger

variable {l : Logger} {path : String}

/-- The lines of the records that pass. -/
def lines (l : Logger) (records : List Record) : List String :=
  (records.filter l.enabled).map Record.text

theorem lines_cons_of_enabled {r : Record} (h : l.enabled r = true) (records : List Record) :
    l.lines (r :: records) = r.text :: l.lines records := by
  rw [lines, List.filter_cons_of_pos h, List.map_cons]
  rfl

theorem lines_cons_of_not_enabled {r : Record} (h : ¬ l.enabled r = true)
    (records : List Record) : l.lines (r :: records) = l.lines records := by
  rw [lines, List.filter_cons_of_neg h]
  rfl

/-! ## The file -/

theorem appendTo_of_enabled (hFile : l.file = some path) {r : Record} (h : l.enabled r = true)
    (content : Option ByteArray) :
    l.appendTo content r = some (content.getD .empty ++ (r.text ++ "\n").toUTF8) := by
  simp [appendTo, written, hFile, h]

theorem appendTo_of_not_enabled {r : Record} (h : ¬ l.enabled r = true)
    (content : Option ByteArray) : l.appendTo content r = content := by
  simp [appendTo, h]

theorem appendAll_cons (l : Logger) (content : Option ByteArray) (r : Record)
    (records : List Record) :
    l.appendAll content (r :: records) = l.appendAll (l.appendTo content r) records :=
  List.foldl_cons

theorem appendAll_some (hFile : l.file = some path) (content : ByteArray) (records : List Record) :
    l.appendAll (some content) records = some (content ++ (fileText (l.lines records)).toUTF8) := by
  induction records generalizing content with
  | nil => exact congrArg some ByteArray.append_empty.symm
  | cons r records ih =>
    rw [appendAll_cons]
    by_cases h : l.enabled r = true
    · rw [appendTo_of_enabled hFile h, ih, lines_cons_of_enabled h, toUTF8_fileText_cons,
        Option.getD_some, ByteArray.append_assoc]
    · rw [appendTo_of_not_enabled h, ih, lines_cons_of_not_enabled h]

theorem appendAll_none (hFile : l.file = some path) (records : List Record) :
    l.appendAll none records =
      if l.lines records = [] then none else some (fileText (l.lines records)).toUTF8 := by
  induction records with
  | nil => rfl
  | cons r records ih =>
    rw [appendAll_cons]
    by_cases h : l.enabled r = true
    · rw [appendTo_of_enabled hFile h, appendAll_some hFile, lines_cons_of_enabled h,
        toUTF8_fileText_cons, if_neg (List.cons_ne_nil _ _), Option.getD_none,
        ByteArray.empty_append]
    · rw [appendTo_of_not_enabled h, ih, lines_cons_of_not_enabled h]

/-- After a run of records, the log file holds what it held before and then one line for each record
at or below the filter, in their order, and nothing for the others. -/
theorem appendAll_holds_passing (hFile : l.file = some path) (records : List Record) :
    ∃ lines, List.Forall₂ Record.Line (records.filter (·.level ∈ l.filter.levels)) lines ∧
      (∀ content, l.appendAll (some content) records =
        some (content ++ (fileText lines).toUTF8)) ∧
      l.appendAll none records = if lines = [] then none else some (fileText lines).toUTF8 := by
  have hPassing : records.filter (·.level ∈ l.filter.levels) = records.filter l.enabled := by
    refine List.filter_congr fun r _ => ?_
    rw [Bool.eq_iff_iff, decide_eq_true_iff]
    exact Filter.allows_iff.symm
  refine ⟨l.lines records, ?_, fun content => appendAll_some hFile content records,
    appendAll_none hFile records⟩
  rw [hPassing, lines, List.forall₂_map_right_iff, List.forall₂_same]
  exact fun r _ => r.line_text

/-- A place that lacks its line, or that belongs to a warning, is not shown.  The byte that stands
in the file before is no text. -/
theorem appendAll_holds_passing_debug :
    let l : Logger := Logger.withFile { filter := .upTo .debug } "keys.log"
    let warning : Record := ⟨.warn, "C-x b is undefined", some "Episode", some 4⟩
    let hidden : Record := ⟨.trace, "C-x is a prefix key", some "Episode", some 3⟩
    let started : Record := ⟨.debug, "episode started", some "Episode", none⟩
    let resolved : Record := ⟨.debug, "C-n resolved to a command", some "Episode", some 2⟩
    let records := [warning, hidden, started, resolved]
    let before : ByteArray := ⟨#[0xff]⟩
    l.file = some "keys.log" ∧
    (∃ lines, List.Forall₂ Record.Line [warning, started, resolved] lines ∧
      l.appendAll (some before) records = some (before ++ (fileText lines).toUTF8)) ∧
    l.appendAll (some before) records = some (before ++ ("WARN: C-x b is undefined\n" ++
      "DEBUG: episode started\n" ++ "DEBUG: C-n resolved to a command at Episode:2\n").toUTF8) := by
  intro l warning hidden started resolved records before
  have hFile : l.file = some "keys.log" := rfl
  obtain ⟨lines, hLines, hContent, -⟩ := appendAll_holds_passing hFile records
  exact ⟨hFile, ⟨lines, hLines, hContent before⟩, rfl⟩

end Logger

end Keychord.Log
