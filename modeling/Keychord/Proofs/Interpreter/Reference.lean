import Mathlib.Algebra.Order.Ring.Nat
import Mathlib.Order.Bounds.Basic
import Keychord.Interpreter
import Keychord.Proofs.Episode.Groups

/-!
# What a lookup comes to

`Reference` says it without an episode.  The tokens before the first failure are cut into groups,
and the store is asked about the text of the first group, of the first two, and so on; the first
answer that does not call for more decides, and the script is left right after the last key of the
groups that were read.  If there is no such answer, the failure decides.

`finish_eq_settle` follows an episode through a script, one item at a time, and `settle_spec` finds
the least number of groups in its outcome.
-/

namespace Keychord

variable {α : Type}

/-! ## Scripts -/

namespace Script

/-- The keys before the first failure. -/
def heard : Script → List Key
  | [] => []
  | .key k :: script => k :: heard script
  | .failure _ :: _ => []
  | .ignored _ :: script => heard script

/-- The first failure; a script that is used up has closed. -/
def failure : Script → InputError
  | [] => .closed
  | .failure cause :: _ => cause
  | .key _ :: script | .ignored _ :: script => failure script

/-- What comes after the first failure. -/
def afterFailure : Script → Script
  | [] => []
  | .failure _ :: script => script
  | .key _ :: script | .ignored _ :: script => afterFailure script

/-- What comes right after the first `n` keys. -/
def dropKeys : Nat → Script → Script
  | 0, script => script
  | _ + 1, [] => []
  | n + 1, .key _ :: script => dropKeys n script
  | n + 1, .failure _ :: script | n + 1, .ignored _ :: script => dropKeys (n + 1) script

end Script

/-! ## The reference -/

namespace Group

/-- The text of the first `n` groups, with one space between neighbours. -/
def text (groups : List Group) (n : Nat) : String :=
  " ".intercalate ((groups.take n).map fun g => g.chord.text)

/-- The number of keys of the first `n` groups. -/
def keyCount (groups : List Group) (n : Nat) : Nat := ((groups.take n).map keys).sum

end Group

/-- What the answer of a store to a text makes of the keys that were read. -/
inductive Binding.Decides (text : String) (keys : Nat) : Binding α → Outcome α → Prop
  | command (c : α) : Decides text keys (.command c) (.ok ⟨text, c, keys⟩)
  | unbound : Decides text keys .unbound (.error (.unresolved text))

/-- The groups of the keys that an episode hears on a script. -/
def Config.heardGroups (c : Config) (script : Script) : List Group :=
  c.groups true (script.heard.map Key.token)

/-- What a lookup has to come to, and where it has to leave the script. -/
inductive Reference (c : Config) (store : Store α) (script : Script) : Outcome α → Script → Prop
  | decided {n : Nat} {outcome : Outcome α}
      (least : IsLeast {n | 1 ≤ n ∧ n ≤ (c.heardGroups script).length ∧
        store (Group.text (c.heardGroups script) n) ≠ .nested} n)
      (decides : (store (Group.text (c.heardGroups script) n)).Decides
        (Group.text (c.heardGroups script) n) (Group.keyCount (c.heardGroups script) n) outcome) :
      Reference c store script outcome
        (script.dropKeys (Group.keyCount (c.heardGroups script) n))
  | failed
      (nested : ∀ n, 1 ≤ n → n ≤ (c.heardGroups script).length →
        store (Group.text (c.heardGroups script) n) = .nested) :
      Reference c store script (.error (.input script.failure)) script.afterFailure

theorem Binding.Decides.unique {b : Binding α} {text : String} {keys : Nat} {o o' : Outcome α}
    (h : b.Decides text keys o) (h' : b.Decides text keys o') : o = o' := by
  cases h <;> cases h' <;> rfl

theorem Reference.unique {c : Config} {store : Store α} {script rest rest' : Script}
    {o o' : Outcome α} (h : Reference c store script o rest)
    (h' : Reference c store script o' rest') : o = o' ∧ rest = rest' := by
  cases h with
  | decided least decides =>
    cases h' with
    | decided least' decides' =>
      obtain rfl := least.unique least'
      exact ⟨decides.unique decides', rfl⟩
    | failed nested => exact absurd (nested _ least.1.1 least.1.2.1) least.1.2.2
  | failed nested =>
    cases h' with
    | decided least' _ => exact absurd (nested _ least'.1.1 least'.1.2.1) least'.1.2.2
    | failed _ => exact ⟨rfl, rfl⟩

/-! ## Asking group by group -/

/-- Asks a store about one group after the other, on top of a sequence that `keys` keys have given.
The outcome comes with the number of keys of the groups that were asked about. -/
def settle (store : Store α) (s : KeySequence) (keys : Nat) : List Group → Option (Outcome α × Nat)
  | [] => none
  | g :: groups =>
    let s' := s.push g.chord
    match store s'.description with
    | .command c => some (.ok ⟨s'.description, c, keys + g.keys⟩, g.keys)
    | .unbound => some (.error (.unresolved s'.description), g.keys)
    | .nested => (settle store s' (keys + g.keys) groups).map fun r => (r.1, r.2 + g.keys)

section settle

variable {store : Store α} {s : KeySequence} {keys : Nat} {g : Group} {groups : List Group}

theorem settle_of_command {c : α} (h : store (s.push g.chord).description = .command c) :
    settle store s keys (g :: groups) =
      some (.ok ⟨(s.push g.chord).description, c, keys + g.keys⟩, g.keys) := by
  simp only [settle, h]

theorem settle_of_unbound (h : store (s.push g.chord).description = .unbound) :
    settle store s keys (g :: groups) =
      some (.error (.unresolved (s.push g.chord).description), g.keys) := by
  simp only [settle, h]

theorem settle_of_nested (h : store (s.push g.chord).description = .nested) :
    settle store s keys (g :: groups) =
      (settle store (s.push g.chord) (keys + g.keys) groups).map
        fun r => (r.1, r.2 + g.keys) := by
  simp only [settle, h]

theorem settle_keys_pos {r : Outcome α × Nat} (h : settle store s keys groups = some r) :
    0 < r.2 := by
  cases groups with
  | nil => cases h
  | cons g groups =>
    have hPos := g.keys_pos
    cases hStore : store (s.push g.chord).description with
    | command c =>
      rw [settle_of_command hStore] at h
      cases h
      exact hPos
    | unbound =>
      rw [settle_of_unbound hStore] at h
      cases h
      exact hPos
    | nested =>
      rw [settle_of_nested hStore] at h
      obtain ⟨r', -, rfl⟩ := Option.map_eq_some_iff.mp h
      exact Nat.add_pos_right r'.2 hPos

/-- A trigger that has been read counts before the first group instead of in it. -/
theorem settle_triggered (hTriggered : ∀ g ∈ groups.head?, g.triggered = false) :
    settle store s keys (groups.modifyHead fun g => { g with triggered := true }) =
      (settle store s (keys + 1) groups).map fun r => (r.1, r.2 + 1) := by
  cases groups with
  | nil => rfl
  | cons g groups =>
    obtain ⟨chord, triggered⟩ := g
    obtain rfl : triggered = false := hTriggered ⟨chord, triggered⟩ rfl
    rw [List.modifyHead_cons]
    cases hStore : store (s.push chord).description with
    | command c =>
      rw [settle_of_command hStore, settle_of_command hStore]
      rfl
    | unbound =>
      rw [settle_of_unbound hStore, settle_of_unbound hStore]
      rfl
    | nested =>
      rw [settle_of_nested hStore, settle_of_nested hStore, Option.map_map]
      rfl

end settle

/-- A sequence with the chords of the first `n` groups behind it. -/
def KeySequence.pushGroups (s : KeySequence) (groups : List Group) (n : Nat) : KeySequence :=
  ⟨s.chords ++ (groups.take n).map Group.chord⟩

theorem KeySequence.pushGroups_one (s : KeySequence) (g : Group) (groups : List Group) :
    s.pushGroups (g :: groups) 1 = s.push g.chord := rfl

theorem KeySequence.pushGroups_succ (s : KeySequence) (g : Group) (groups : List Group) (n : Nat) :
    s.pushGroups (g :: groups) (n + 1) = (s.push g.chord).pushGroups groups n := by
  simp [pushGroups, push]

theorem KeySequence.description_pushGroups (groups : List Group) (n : Nat) :
    (KeySequence.pushGroups {} groups n).description = Group.text groups n := by
  simp [pushGroups, description, Group.text, Function.comp_def]

theorem Group.keyCount_cons_succ (g : Group) (groups : List Group) (n : Nat) :
    keyCount (g :: groups) (n + 1) = g.keys + keyCount groups n := rfl

/-- The least number of groups behind a sequence at which a store decides. -/
def DecidesAt (store : Store α) (s : KeySequence) (groups : List Group) (n : Nat) : Prop :=
  IsLeast {n | 1 ≤ n ∧ n ≤ groups.length ∧
    store (s.pushGroups groups n).description ≠ .nested} n

theorem DecidesAt.first {store : Store α} {s : KeySequence} {g : Group} (groups : List Group)
    (h : store (s.push g.chord).description ≠ .nested) : DecidesAt store s (g :: groups) 1 :=
  ⟨⟨le_rfl, Nat.succ_pos _, h⟩, fun _ hn => hn.1⟩

theorem DecidesAt.later {store : Store α} {s : KeySequence} {g : Group} {groups : List Group}
    {n : Nat} (hNested : store (s.push g.chord).description = .nested)
    (h : DecidesAt store (s.push g.chord) groups n) : DecidesAt store s (g :: groups) (n + 1) := by
  obtain ⟨⟨hOne, hLength, hNe⟩, hLower⟩ := h
  refine ⟨⟨Nat.succ_pos n, Nat.succ_le_succ hLength, ?_⟩, ?_⟩
  · rw [KeySequence.pushGroups_succ]
    exact hNe
  · rintro (_ | _ | m) ⟨hm, hmLength, hmNe⟩
    · omega
    · exact absurd hNested hmNe
    · rw [KeySequence.pushGroups_succ] at hmNe
      exact Nat.succ_le_succ (hLower ⟨Nat.succ_pos m, Nat.le_of_succ_le_succ hmLength, hmNe⟩)

/-- Asking group by group finds the least number of groups at which the store decides. -/
theorem settle_spec (store : Store α) (s : KeySequence) (keys : Nat) (groups : List Group) :
    match settle store s keys groups with
    | none => ∀ n, 1 ≤ n → n ≤ groups.length →
        store (s.pushGroups groups n).description = .nested
    | some r => ∃ n, DecidesAt store s groups n ∧
        (store (s.pushGroups groups n).description).Decides (s.pushGroups groups n).description
          (keys + Group.keyCount groups n) r.1 ∧
        r.2 = Group.keyCount groups n := by
  induction groups generalizing s keys with
  | nil =>
    intro n hOne hLength
    exact absurd (le_trans hOne hLength) (by decide)
  | cons g groups ih =>
    have hRest := ih (s.push g.chord) (keys + g.keys)
    cases hStore : store (s.push g.chord).description with
    | command c =>
      rw [settle_of_command hStore]
      refine ⟨1, .first groups (by simp [hStore]), ?_, rfl⟩
      rw [KeySequence.pushGroups_one, hStore]
      exact .command c
    | unbound =>
      rw [settle_of_unbound hStore]
      refine ⟨1, .first groups (by simp [hStore]), ?_, rfl⟩
      rw [KeySequence.pushGroups_one, hStore]
      exact .unbound
    | nested =>
      rw [settle_of_nested hStore]
      cases hSettle : settle store (s.push g.chord) (keys + g.keys) groups with
      | none =>
        rw [hSettle] at hRest
        rintro (_ | _ | n) hOne hLength
        · omega
        · exact hStore
        · rw [KeySequence.pushGroups_succ]
          exact hRest (n + 1) (Nat.succ_pos n) (Nat.le_of_succ_le_succ hLength)
      | some r =>
        rw [hSettle] at hRest
        obtain ⟨n, hLeast, hDecides, hKeys⟩ := hRest
        refine ⟨n + 1, hLeast.later hStore, ?_, ?_⟩
        · rw [KeySequence.pushGroups_succ, Group.keyCount_cons_succ, ← Nat.add_assoc]
          exact hDecides
        · rw [Group.keyCount_cons_succ, ← hKeys]
          exact Nat.add_comm r.2 g.keys

/-! ## Following an episode -/

/-- What a read gave and what it left, without its notes. -/
def Read.seen {ε β : Type} (r : Read ε β) : Except ε β × Script := (r.result, r.rest)

@[simp] theorem Read.seen_after {ε β : Type} (notes : List Log.Note) (r : Read ε β) :
    (r.after notes).seen = r.seen := rfl

theorem Read.rest_eq_of_seen {ε β : Type} {r r' : Read ε β} (h : r.seen = r'.seen) :
    r.rest = r'.rest := congrArg Prod.snd h

namespace Episode

variable {e : Episode} {store : Store α} {key : Key} {script : Script}

theorem finish_of_pending (h : (e.feed store key).step = .pending) :
    (e.finish store (.key key :: script)).seen =
      ((e.feed store key).episode.finish store script).seen := by
  simp [finish, take, h]

theorem finish_of_command {text : String} {c : α}
    (h : (e.feed store key).step = .command text c) :
    (e.finish store (.key key :: script)).seen =
      (.ok ⟨text, c, (e.feed store key).episode.keysConsumed⟩, script) := by
  simp [finish, take, h, Read.seen]

theorem finish_of_undefined {text : String} (h : (e.feed store key).step = .undefined text) :
    (e.finish store (.key key :: script)).seen = (.error (.unresolved text), script) := by
  simp [finish, take, h, Read.seen]

end Episode

/-- What is read of a script when groups of its keys have been asked about. -/
def Script.settled (script : Script) : Option (Outcome α × Nat) → Outcome α × Script
  | some r => (r.1, script.dropKeys r.2)
  | none => (.error (.input script.failure), script.afterFailure)

theorem Script.settled_ignored (event : Terminal.Event) (script : Script)
    {r : Option (Outcome α × Nat)} (h : ∀ x ∈ r, 0 < x.2) :
    settled (.ignored event :: script) r = settled script r := by
  cases r with
  | none => rfl
  | some x =>
    obtain ⟨n, hn⟩ := Nat.exists_eq_succ_of_ne_zero (h x rfl).ne'
    simp only [settled, hn]
    rfl

theorem Script.settled_key (key : Key) (script : Script) (r : Option (Outcome α × Nat)) :
    settled (.key key :: script) (r.map fun x => (x.1, x.2 + 1)) = settled script r := by
  cases r <;> rfl

/-- An episode that is followed through a script comes to what asking about its groups comes to. -/
theorem finish_eq_settle (e : Episode) (store : Store α) (script : Script) :
    (e.finish store script).seen =
      script.settled (settle store e.builder.sequence e.taken
        (e.builder.groups e.config (script.heard.map Key.token))) := by
  -- Every key moves the builder and the count on, so the episode varies in the induction.
  induction script generalizing e with
  | nil =>
    simp [Episode.finish, Read.seen, Script.heard, settle, Script.settled, Script.failure,
      Script.afterFailure]
  | cons item script ih =>
    cases item with
    | failure cause =>
      simp [Episode.finish, Episode.take, Read.seen, Script.heard, settle, Script.settled,
        Script.failure, Script.afterFailure]
    | ignored event =>
      rw [Script.settled_ignored event script fun x hx => settle_keys_pos hx]
      exact ih e
    | key key =>
      have hGroups := e.builder.groups_cons e.config key ((Script.heard script).map Key.token)
      cases hStep : (e.builder.feed e.config key).step with
      | needsKey =>
        obtain ⟨hFed, hEpisode⟩ := Episode.feed_of_needsKey store hStep
        rw [hStep] at hGroups
        obtain ⟨m, hBuilder, hGroups⟩ := hGroups
        rw [hBuilder] at hEpisode hGroups
        -- The trigger belongs to the group ahead, but the episode has counted it already.
        rw [Script.heard, List.map_cons, hGroups, settle_triggered Builder.triggered_of_mem_head?,
          Script.settled_key, Episode.finish_of_pending hFed, hEpisode]
        exact ih _
      | appended chord =>
        obtain ⟨hFed, hEpisode⟩ := Episode.feed_of_appended store hStep
        rw [hStep] at hGroups
        obtain ⟨hBuilder, hGroups⟩ := hGroups
        rw [hBuilder] at hFed hEpisode hGroups
        rw [Script.heard, List.map_cons, hGroups]
        cases hStore : store (e.builder.sequence.push chord).description with
        | command c =>
          simp only [Episode.dispatch, hStore] at hFed hEpisode
          rw [settle_of_command hStore, Episode.finish_of_command hFed, hEpisode]
          simp [Script.settled, Group.keys, Script.dropKeys, Episode.keysConsumed]
        | unbound =>
          simp only [Episode.dispatch, hStore] at hFed
          rw [settle_of_unbound hStore, Episode.finish_of_undefined hFed]
          simp [Script.settled, Group.keys, Script.dropKeys]
        | nested =>
          simp only [Episode.dispatch, hStore] at hFed hEpisode
          rw [settle_of_nested hStore, Episode.finish_of_pending hFed, hEpisode]
          refine (ih _).trans ?_
          exact (Script.settled_key key script _).symm

/-- A lookup has come to an outcome and has left a rest of the script exactly if the reference
says so. -/
theorem lookup_iff_reference (i : Interpreter) (store : Store α) (script rest : Script)
    (outcome : Outcome α) :
    Reference i.config store script outcome rest ↔
      (i.lookup store script).result = outcome ∧ (i.lookup store script).rest = rest := by
  have hSeen : (i.lookup store script).seen =
      script.settled (settle store {} 0 (i.config.heardGroups script)) :=
    finish_eq_settle { config := i.config } store script
  have hReference : Reference i.config store script (i.lookup store script).seen.1
      (i.lookup store script).seen.2 := by
    rw [hSeen]
    have hSpec := settle_spec store {} 0 (i.config.heardGroups script)
    simp only [DecidesAt, KeySequence.description_pushGroups, Nat.zero_add] at hSpec
    cases hSettle : settle store {} 0 (i.config.heardGroups script) with
    | none =>
      rw [hSettle] at hSpec
      exact .failed hSpec
    | some r =>
      rw [hSettle] at hSpec
      obtain ⟨n, hLeast, hDecides, hKeys⟩ := hSpec
      rw [Script.settled, hKeys]
      exact .decided hLeast hDecides
  constructor
  · intro h
    exact hReference.unique h
  · rintro ⟨rfl, rfl⟩
    exact hReference

end Keychord
