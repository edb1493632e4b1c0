import Mathlib.Data.List.Infix
import Keychord.Program.Options

/-!
# What arguments are used for

A command line is cut from left to right into uses of its arguments (`Used`): each argument is an
option, the value of the option right before it, or ignored.  The options of a command line are
what its uses say (`Used.parse_eq`), and of two uses for one thing the later counts.  So the options
of two command lines one after the other come from those of both, unless the first one ends where a
value is still to come.
-/

namespace Keychord.Program.Options

/-! ## Uses -/

/-- What an argument is used for, together with the value behind it if that is taken. -/
inductive Use where
  | config (value : Option String)
  | debugLog (value : Option String)
  | describe
  | ignored (arg : String)
  deriving DecidableEq

namespace Use

/-- The arguments that are used, a value right behind its option. -/
def args : Use → List String
  | .config value => "--config" :: value.toList
  | .debugLog value => "--debug-log" :: value.toList
  | .describe => ["--describe"]
  | .ignored arg => [arg]

/-- An option that could take a value has none. -/
def LacksValue (u : Use) : Prop := u = .config none ∨ u = .debugLog none

/-- The configuration file that is named. -/
def configPath? (env : Path.Environment) : Use → Option String
  | .config (some value) => some (Path.expand env value)
  | _ => none

/-- The log file that is asked for, by its name or without one. -/
def debugLog? (env : Path.Environment) : Use → Option String
  | .debugLog (some value) => some (Path.expand env value)
  | .debugLog none => some defaultDebugLog
  | _ => none

end Use

/-- What a command line begins with, and the rest of it.  The configuration takes the next argument
whatever that is, the log takes it only if it does not begin with a hyphen. -/
inductive Begins : List String → Use → List String → Prop
  | config (value : String) (rest : List String) :
      Begins ("--config" :: value :: rest) (.config (some value)) rest
  | configLast : Begins ["--config"] (.config none) []
  | debugLog {value : String} (isValue : ¬ ['-'] <+: value.toList) (rest : List String) :
      Begins ("--debug-log" :: value :: rest) (.debugLog (some value)) rest
  | debugLogAlone {rest : List String} (noValue : ∀ arg ∈ rest.head?, ['-'] <+: arg.toList) :
      Begins ("--debug-log" :: rest) (.debugLog none) rest
  | describe (rest : List String) : Begins ("--describe" :: rest) .describe rest
  | ignored {arg : String} (other : arg ∉ ["--config", "--debug-log", "--describe"])
      (rest : List String) : Begins (arg :: rest) (.ignored arg) rest

/-- The uses of the arguments of a command line, from left to right. -/
inductive Used : List String → List Use → Prop
  | nil : Used [] []
  | cons {args rest : List String} {u : Use} {uses : List Use} (head : Begins args u rest)
      (tail : Used rest uses) : Used args (u :: uses)

/-- No option at the end of a command line could still take a value. -/
def Complete (args : List String) : Prop :=
  ∀ uses, Used args uses → ∀ u ∈ uses.getLast?, ¬ u.LacksValue

/-- The options that uses give: of several for one thing the last counts. -/
def ofUses (env : Path.Environment) (uses : List Use) : Options where
  configPath := (uses.filterMap (Use.configPath? env)).getLast?
  debugLog := (uses.filterMap (Use.debugLog? env)).getLast?
  describe := decide (.describe ∈ uses)

/-- The options of a command line and of what is added to it. -/
def followedBy (o later : Options) : Options where
  configPath := later.configPath.or o.configPath
  debugLog := later.debugLog.or o.debugLog
  describe := later.describe || o.describe

/-! ## Cutting a command line -/

theorem isHyphened_iff {arg : String} : isHyphened arg = true ↔ ['-'] <+: arg.toList := by
  rw [isHyphened, decide_eq_true_iff]
  cases arg.toList with
  | nil => simp
  | cons c text => simp [eq_comm]

section Begins

variable {args rest rest' : List String} {u u' : Use}

theorem Begins.args_append (h : Begins args u rest) : args = u.args ++ rest := by
  cases h <;> rfl

theorem Begins.unique {args' : List String} (h : Begins args u rest) (h' : Begins args' u' rest')
    (hSame : args = args') : u = u' ∧ rest = rest' := by
  -- Uses with the same first argument differ in whether the next one is there and can be a value.
  cases h <;> cases h' <;> grind

/-- A use stays the same when arguments are added, unless its option would take the first one. -/
theorem Begins.append (h : Begins args u rest) (hValue : rest = [] → ¬ u.LacksValue)
    (more : List String) : Begins (args ++ more) u (rest ++ more) := by
  cases h with
  | config value rest => exact .config value _
  | configLast => exact absurd (Or.inl rfl) (hValue rfl)
  | debugLog isValue rest => exact .debugLog isValue _
  | @debugLogAlone rest noValue =>
    cases rest with
    | nil => exact absurd (Or.inr rfl) (hValue rfl)
    | cons arg rest => exact .debugLogAlone noValue
  | describe rest => exact .describe _
  | ignored other rest => exact .ignored other _

theorem exists_begins (arg : String) (args : List String) :
    ∃ u rest, Begins (arg :: args) u rest ∧ rest.length ≤ args.length := by
  by_cases hConfig : arg = "--config"
  · subst hConfig
    cases args with
    | nil => exact ⟨_, [], .configLast, le_rfl⟩
    | cons value rest => exact ⟨_, rest, .config value rest, Nat.le_succ _⟩
  · by_cases hLog : arg = "--debug-log"
    · subst hLog
      by_cases hAlone : ∀ next ∈ args.head?, ['-'] <+: next.toList
      · exact ⟨_, args, .debugLogAlone hAlone, le_rfl⟩
      · cases args with
        | nil => exact absurd (by simp) hAlone
        | cons value rest =>
          have hValue : ¬ ['-'] <+: value.toList := by simpa using hAlone
          exact ⟨_, rest, .debugLog hValue rest, Nat.le_succ _⟩
    · by_cases hDescribe : arg = "--describe"
      · subst hDescribe
        exact ⟨_, args, .describe args, le_rfl⟩
      · exact ⟨_, args, .ignored (by simp [hConfig, hLog, hDescribe]) args, le_rfl⟩

end Begins

theorem exists_used (args : List String) : ∃ uses, Used args uses := by
  induction hLength : args.length using Nat.strongRecOn generalizing args with
  | ind length ih =>
    cases args with
    | nil => exact ⟨[], .nil⟩
    | cons arg args =>
      obtain ⟨u, rest, hHead, hRest⟩ := exists_begins arg args
      rw [List.length_cons] at hLength
      obtain ⟨uses, hTail⟩ := ih rest.length (by omega) rest rfl
      exact ⟨u :: uses, .cons hHead hTail⟩

namespace Used

variable {args : List String} {uses uses' : List Use}

theorem flatMap_args (h : Used args uses) : uses.flatMap Use.args = args := by
  induction h with
  | nil => rfl
  | cons head tail ih => rw [List.flatMap_cons, ih, ← head.args_append]

theorem unique (h : Used args uses) (h' : Used args uses') : uses = uses' := by
  induction h generalizing uses' with
  | nil =>
    cases h' with
    | nil => rfl
    | cons head' tail' => cases head'
  | cons head tail ih =>
    cases h' with
    | nil => cases head
    | cons head' tail' =>
      obtain ⟨rfl, rfl⟩ := head.unique head' rfl
      rw [ih tail']

/-- What is added to a complete command line is used as if it stood alone. -/
theorem append (h : Used args uses) (hEnd : ∀ u ∈ uses.getLast?, ¬ u.LacksValue)
    {more : List String} (h' : Used more uses') : Used (args ++ more) (uses ++ uses') := by
  induction h with
  | nil => exact h'
  | @cons args rest u uses head tail ih =>
    have hHead : rest = [] → ¬ u.LacksValue := by
      rintro rfl
      obtain rfl := tail.unique .nil
      exact hEnd u rfl
    have hTail : ∀ u ∈ uses.getLast?, ¬ u.LacksValue := by
      intro v hv
      refine hEnd v ?_
      rw [List.getLast?_cons, Option.mem_def.mp hv]
      rfl
    exact .cons (head.append hHead more) (ih hTail)

end Used

/-! ## The options of a command line -/

section Scan

variable (env : Path.Environment)

theorem ofUses_append (uses uses' : List Use) :
    ofUses env (uses ++ uses') = (ofUses env uses).followedBy (ofUses env uses') := by
  simp [ofUses, followedBy, List.filterMap_append, List.getLast?_append, Bool.or_comm]

theorem followedBy_assoc (o o' o'' : Options) :
    (o.followedBy o').followedBy o'' = o.followedBy (o'.followedBy o'') := by
  simp [followedBy, Option.or_assoc, Bool.or_assoc]

theorem Begins.scan_eq {args rest : List String} {u : Use} (h : Begins args u rest) (o : Options) :
    scan env o args = scan env (o.followedBy (ofUses env [u])) rest := by
  cases h with
  | config value rest => rfl
  | configLast => rfl
  | @debugLog value isValue rest =>
    rw [← isHyphened_iff] at isValue
    change (if isHyphened value = true then _ else _) = _
    rw [if_neg isValue]
    rfl
  | @debugLogAlone rest noValue =>
    cases rest with
    | nil => rfl
    | cons arg rest =>
      have hHyphen : isHyphened arg = true := isHyphened_iff.mpr (noValue arg rfl)
      change (if isHyphened arg = true then _ else _) = _
      rw [if_pos hHyphen]
      rfl
  | describe rest =>
    conv_lhs => unfold scan
    rw [if_neg (by decide), if_neg (by decide), if_pos rfl]
    rfl
  | @ignored arg other rest =>
    simp only [List.mem_cons, List.not_mem_nil, or_false, not_or] at other
    obtain ⟨hConfig, hLog, hDescribe⟩ := other
    conv_lhs => unfold scan
    rw [if_neg hConfig, if_neg hLog, if_neg hDescribe]
    rfl

/-- A command line adds to options what its uses say. -/
theorem Used.scan_eq {args : List String} {uses : List Use} (h : Used args uses) (o : Options) :
    scan env o args = o.followedBy (ofUses env uses) := by
  induction h generalizing o with
  | nil => rfl
  | @cons args rest u uses head tail ih =>
    rw [head.scan_eq, ih, followedBy_assoc, ← ofUses_append]
    rfl

theorem Used.parse_eq {args : List String} {uses : List Use} (h : Used args uses) :
    parse env args = ofUses env uses := by
  rw [parse, h.scan_eq, followedBy]
  simp

end Scan

/-- Two command lines one after the other name the files that the second one names, and those of the
first one where the second names none, and they ask for descriptions if one of them does; the first
one must not end where a value is still to come.  And the arguments of a command line have uses in
one way only: none is left out and none is used twice, and the options are what the uses say. -/
theorem parse_append (env : Path.Environment) :
    (∀ a b : List String, Complete a →
      (parse env (a ++ b)).configPath = (parse env b).configPath.or (parse env a).configPath ∧
      (parse env (a ++ b)).debugLog = (parse env b).debugLog.or (parse env a).debugLog ∧
      (parse env (a ++ b)).describe = ((parse env a).describe || (parse env b).describe)) ∧
    ∀ args, ∃ uses, (∀ uses', Used args uses' ↔ uses' = uses) ∧ uses.flatMap Use.args = args ∧
      parse env args = ofUses env uses := by
  constructor
  · intro a b hComplete
    obtain ⟨uses, hUses⟩ := exists_used a
    obtain ⟨uses', hUses'⟩ := exists_used b
    have hBoth := hUses.append (hComplete uses hUses) hUses'
    rw [hBoth.parse_eq, hUses.parse_eq, hUses'.parse_eq, ofUses_append]
    exact ⟨rfl, rfl, Bool.or_comm _ _⟩
  · intro args
    obtain ⟨uses, hUses⟩ := exists_used args
    have hOnly : ∀ uses', Used args uses' ↔ uses' = uses := by
      intro uses'
      constructor
      · intro h
        exact h.unique hUses
      · rintro rfl
        exact hUses
    exact ⟨uses, hOnly, hUses.flatMap_args, hUses.parse_eq env⟩

/-- A value that looks like an option does not take the argument behind it. -/
theorem parse_append_value_like_option :
    let env : Path.Environment := ⟨fun _ => none, none⟩
    let a := ["--config", "--debug-log"]
    let b := ["keys.log", "--describe"]
    Complete a ∧
    (parse env (a ++ b)).configPath = (parse env b).configPath.or (parse env a).configPath ∧
    (parse env (a ++ b)).debugLog = (parse env b).debugLog.or (parse env a).debugLog ∧
    (parse env (a ++ b)).describe = ((parse env a).describe || (parse env b).describe) ∧
    (parse env a).configPath = some (Path.expand env "--debug-log") ∧
    (parse env b).debugLog = none ∧ (parse env b).describe = true := by
  intro env a b
  have hUsed : Used a [.config (some "--debug-log")] := .cons (.config "--debug-log" []) .nil
  have hComplete : Complete a := by
    intro uses hUses
    rw [hUses.unique hUsed]
    simp [Use.LacksValue]
  obtain ⟨hConfig, hLog, hDescribe⟩ := (parse_append env).1 a b hComplete
  exact ⟨hComplete, hConfig, hLog, hDescribe, rfl, by decide, by decide⟩

end Keychord.Program.Options
