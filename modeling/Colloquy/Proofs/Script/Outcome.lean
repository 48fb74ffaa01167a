import Colloquy.Proofs.Script.FreeName
import Colloquy.Proofs.Script.Record
import Colloquy.Script.Evaluation

/-!
# Outcomes

What comes of a condition or a statement, whatever its text and the store.  A condition always gets
a verdict.  A statement always writes one variable: its own one if it can be carried out, otherwise
a new one that keeps a record of it, so that nothing that was there before is lost.

* `Action.readTrimmed_cases`, `Condition.readTrimmed_cases`: only long literals cannot be read;
* `Action.assigned?`: the variable that an action sets, with its new value;
* `Failure`: why a statement that is not unknown cannot be carried out;
* `Decided`, `Writes`: what comes of a condition and of a statement;
* `execute_of_writes`: execution writes what the statement writes and nothing else;
* `every_text_has_outcome`: every text has a verdict and writes a variable.
-/

namespace Colloquy

open Text

/-! ### Reading -/

/-- A failure that comes of an integer literal with too many digits. -/
def NumberError.IsTooLong (e : NumberError) : Prop :=
  ∃ count, digitLimit < count ∧ e = .tooManyDigits count

theorem IntegerLiteral.isTooLong_of_value {l : IntegerLiteral} {e : NumberError}
    (h : l.value = .error e) : e.IsTooLong := by
  unfold value at h
  split at h
  · next long =>
    cases h
    exact ⟨_, long, rfl⟩
  · cases h

theorem Value.isTooLong_of_read {s : String} {e : NumberError} (h : Value.read s = .error e) :
    e.IsTooLong := by
  unfold Value.read at h
  dsimp only at h
  split at h
  · next l _ =>
    cases hvalue : l.value with
    | ok n =>
      rw [hvalue] at h
      cases h
    | error e' =>
      rw [hvalue] at h
      cases h
      exact IntegerLiteral.isTooLong_of_value hvalue
  · split at h <;> cases h

theorem Action.isTooLong_of_valueOf {phrase : List Char} {e : NumberError}
    (h : valueOf phrase = .error e) : e.IsTooLong := by
  unfold valueOf at h
  cases hread : Value.read (String.ofList phrase) with
  | ok v =>
    rw [hread] at h
    cases v <;> cases h
  | error e' =>
    rw [hread] at h
    cases h
    exact Value.isTooLong_of_read hread

/-- A statement is read, as an unknown one with its own text at worst, unless a literal in it is too
long. -/
theorem Action.readTrimmed_cases (s : List Char) :
    (∃ action, readTrimmed s = .ok action ∧
      (action.isUnknown = true → action = .unknown (String.ofList s))) ∨
      ∃ e, readTrimmed s = .error e ∧ e.IsTooLong := by
  unfold readTrimmed
  split
  · next name phrase _ =>
    cases hvalue : valueOf phrase with
    | ok v => exact .inl ⟨_, rfl, nofun⟩
    | error e => exact .inr ⟨e, rfl, isTooLong_of_valueOf hvalue⟩
  · split
    · exact .inl ⟨_, rfl, nofun⟩
    · split
      · exact .inl ⟨_, rfl, nofun⟩
      · split
        · exact .inl ⟨_, rfl, nofun⟩
        · split
          · next delta _ =>
            cases hvalue : delta.value with
            | ok n => exact .inl ⟨_, rfl, nofun⟩
            | error e => exact .inr ⟨e, rfl, IntegerLiteral.isTooLong_of_value hvalue⟩
          · exact .inl ⟨_, rfl, fun _ => rfl⟩

/-- A condition is read unless a literal in it is too long. -/
theorem Condition.readTrimmed_cases (s : List Char) :
    (∃ condition, readTrimmed s = .ok condition) ∨
      ∃ e, readTrimmed s = .error e ∧ e.IsTooLong := by
  unfold readTrimmed
  split
  · exact .inl ⟨_, rfl⟩
  · split
    · next operand _ =>
      cases hvalue : operand.value with
      | ok n => exact .inl ⟨_, rfl⟩
      | error e => exact .inr ⟨e, rfl, IntegerLiteral.isTooLong_of_value hvalue⟩
    · split <;> exact .inl ⟨_, rfl⟩

/-! ### What comes of a text -/

/-- The variable that an action sets in a store and the value that it gets there; none for an action
that is unknown or cannot be carried out. -/
def Action.assigned? (store : Store) : Action → Option (String × Value)
  | .setVariable name value => some (name, value)
  | .setItem item held => some (itemVariable item, .flag held)
  | .completeQuest quest => some (questVariable quest, questCompleted)
  | .modifyHealth delta =>
    (adjustHealth store delta).toOption.map fun h => (healthVariable, .ofNumber h)
  | .unknown _ => none

/-- Why a statement that is not unknown cannot be carried out. -/
inductive Failure (text : String) (store : Store) : NumberError → Prop
  /-- A literal in it is too long. -/
  | literal {count : Nat} (long : digitLimit < count)
      (reading : Action.read text = .error (.tooManyDigits count)) :
      Failure text store (.tooManyDigits count)
  /-- It changes a health that is a double by an integer beyond all doubles. -/
  | health {delta : Int} {x : Double} (reading : Action.read text = .ok (.modifyHealth delta))
      (current : currentHealth store = .real x) (beyond : Double.ofInt? delta = none) :
      Failure text store .tooLargeForDouble

/-- The variable that a statement writes and its value. -/
inductive Writes (text : String) (ms : Int) (store : Store) : String → Value → Prop
  /-- A statement that can be carried out sets its own variable. -/
  | own {action : Action} {name : String} {value : Value} (reading : Action.read text = .ok action)
      (assigned : action.assigned? store = some (name, value)) : Writes text ms store name value
  /-- An unknown statement is kept under a new name. -/
  | unknown {name : String} (reading : Action.read text = .ok (.unknown (strip text)))
      (free : IsFirstFree store ("action_" ++ toString ms) name) :
      Writes text ms store name (.text (strip text))
  /-- A statement that fails is kept under a new name, with the reason. -/
  | failed {name : String} {e : NumberError} (failure : Failure text store e)
      (free : IsFirstFree store ("error_" ++ toString ms) name) :
      Writes text ms store name (.text (strip text ++ ": " ++ e.message))

/-- The verdict on a text as a condition, and the sources after it. -/
inductive Decided (text : String) (store : Store) (sources : Sources) : Bool × Sources → Prop
  /-- The condition that the text spells has the verdict. -/
  | read {condition : Condition} (reading : Condition.read text = .ok condition) :
      Decided text store sources (condition.evaluate store sources)
  /-- A literal in the text is too long: the verdict is false, and chance is not asked. -/
  | unread {count : Nat} (long : digitLimit < count)
      (reading : Condition.read text = .error (.tooManyDigits count)) :
      Decided text store sources
        (false, sources.note (.conditionFailed text (.tooManyDigits count)))

section

variable {text : String} {store : Store} {sources : Sources} {ms : Int} {action : Action}
  {name : String} {value : Value} {e : NumberError}

/-- Every text gets a verdict. -/
theorem decided_evaluateCondition (text : String) (store : Store) (sources : Sources) :
    Decided text store sources (evaluateCondition text store sources) := by
  unfold evaluateCondition Condition.read
  rcases Condition.readTrimmed_cases (trim text.toList) with ⟨condition, hread⟩ |
    ⟨e, hread, count, long, rfl⟩
  · rw [hread]
    exact .read hread
  · rw [hread]
    exact .unread long hread

/-! ### Statements -/

/-- The health can be changed unless it is a double and the change is beyond all doubles. -/
theorem adjustHealth_eq_error_iff {delta : Int} :
    adjustHealth store delta = .error e ↔
      e = .tooLargeForDouble ∧ (∃ x, currentHealth store = .real x) ∧
        Double.ofInt? delta = none := by
  unfold adjustHealth
  cases currentHealth store with
  | integer m => simp [Except.map]
  | real x => cases hdelta : Double.ofInt? delta <;> simp [Number.add, hdelta, Except.map, eq_comm]

theorem Action.apply_of_assigned (clock : Clock)
    (assigned : action.assigned? store = some (name, value)) :
    action.apply clock store = .ok (Store.set store name value) := by
  cases action with
  | setVariable | setItem | completeQuest =>
    cases assigned
    rfl
  | modifyHealth delta =>
    cases hhealth : adjustHealth store delta with
    | ok h =>
      simp only [assigned?, hhealth, Except.toOption, Option.map_some] at assigned
      cases assigned
      simp [apply, hhealth, Except.map]
    | error e => simp [assigned?, hhealth, Except.toOption] at assigned
  | unknown => cases assigned

/-- An action sets no variable if it is unknown or changes the health by too much. -/
theorem Action.assigned?_eq_none_iff :
    action.assigned? store = none ↔
      action.isUnknown = true ∨
        ∃ delta e, action = .modifyHealth delta ∧ adjustHealth store delta = .error e := by
  cases action with
  | setVariable | setItem | completeQuest | unknown => simp [assigned?, isUnknown]
  | modifyHealth delta =>
    cases hhealth : adjustHealth store delta <;>
      simp [assigned?, isUnknown, hhealth, Except.toOption]

/-- A statement that can be carried out sets its own variable. -/
theorem execute_of_assigned (reading : Action.read text = .ok action)
    (assigned : action.assigned? store = some (name, value)) :
    execute text store sources = { store := Store.set store name value, sources } := by
  have hquiet : action.leave sources = sources := by
    cases action with
    | unknown => cases assigned
    | setVariable | setItem | completeQuest | modifyHealth => rfl
  simp only [execute, reading, Action.apply_of_assigned _ assigned, hquiet]

section

variable (time : milliseconds sources.clock = .ok ms)
include time

theorem recordFailure_of_milliseconds :
    recordFailure text e store sources =
      { store := Store.set store (firstFree store ("error_" ++ toString ms))
          (.text (strip text ++ ": " ++ e.message))
        sources := (sources.note (.actionFailed text e)).tick } := by
  have hrecord := @record_of_milliseconds "error" (strip text ++ ": " ++ e.message) store _ _ time
  simp only [recordFailure, hrecord]
  rfl

/-- An unknown statement is kept. -/
theorem execute_of_unknown {body : String} (reading : Action.read text = .ok (.unknown body)) :
    execute text store sources =
      { store := Store.set store (firstFree store ("action_" ++ toString ms)) (.text body)
        sources := (sources.note (.actionRecorded body)).tick } := by
  have hrecord := @record_of_milliseconds "action" body store _ _ time
  simp only [execute, reading, Action.apply, hrecord]
  rfl

/-- A statement that fails is kept, with the reason. -/
theorem execute_of_failure (failure : Failure text store e) :
    execute text store sources =
      { store := Store.set store (firstFree store ("error_" ++ toString ms))
          (.text (strip text ++ ": " ++ e.message))
        sources := (sources.note (.actionFailed text e)).tick } := by
  have hexecute : execute text store sources = recordFailure text e store sources := by
    cases failure with
    | literal long reading => rw [execute, reading]
    | health reading current beyond =>
      have hhealth := adjustHealth_eq_error_iff.mpr ⟨rfl, ⟨_, current⟩, beyond⟩
      simp [execute, reading, Action.apply, hhealth, Except.map, Action.leave]
  rw [hexecute, recordFailure_of_milliseconds time]

/-- What a statement writes is all that execution does to the store. -/
theorem execute_of_writes (writes : Writes text ms store name value) :
    (execute text store sources).fault = none ∧
      (execute text store sources).store = Store.set store name value := by
  cases writes with
  | own reading assigned =>
    rw [execute_of_assigned reading assigned]
    exact ⟨rfl, rfl⟩
  | unknown reading free =>
    rw [free.eq_firstFree, execute_of_unknown time reading]
    exact ⟨rfl, rfl⟩
  | failed failure free =>
    rw [free.eq_firstFree, execute_of_failure time failure]
    exact ⟨rfl, rfl⟩

end

/-- An unknown statement that cannot be kept at one reading of the clock has failed in its turn, and
is kept at the next reading with the reason. -/
theorem execute_of_late {body : String} (reading : Action.read text = .ok (.unknown body))
    (late : milliseconds sources.clock = .error e)
    (time : milliseconds (sources.clock.after 1) = .ok ms) :
    execute text store sources =
      { store := Store.set store (firstFree store ("error_" ++ toString ms))
          (.text (strip text ++ ": " ++ e.message))
        sources := (((sources.note (.actionRecorded body)).tick).note
          (.actionFailed text e)).tick } := by
  have hrecord : record "action" sources.clock store body = .error e := record_of_error late
  have hleft : milliseconds (Action.leave sources (.unknown body)).clock = .ok ms := time
  simp only [execute, reading, Action.apply, hrecord, recordFailure_of_milliseconds hleft]
  rfl

example : (execute "dance" (Store.set .empty "action_0" (.flag true))
    { chance := fun _ => .zero, clock := .steady .zero }).store.keys =
      ["action_0", "action_0_1"] := by
  decide +kernel

/-- Every statement writes a variable. -/
theorem exists_writes (text : String) (ms : Int) (store : Store) :
    ∃ name value, Writes text ms store name value := by
  rcases Action.readTrimmed_cases (trim text.toList) with ⟨action, hread, hbody⟩ |
    ⟨e, hread, count, long, rfl⟩
  · cases hassigned : action.assigned? store with
    | some own => exact ⟨own.1, own.2, .own hread hassigned⟩
    | none =>
      rcases Action.assigned?_eq_none_iff.mp hassigned with hunknown | ⟨delta, e, rfl, hhealth⟩
      · rw [hbody hunknown] at hread
        exact ⟨_, _, .unknown hread (isFirstFree_firstFree _ _)⟩
      · obtain ⟨rfl, ⟨x, hcurrent⟩, hbeyond⟩ := adjustHealth_eq_error_iff.mp hhealth
        exact ⟨_, _, .failed (.health hread hcurrent hbeyond) (isFirstFree_firstFree _ _)⟩
  · exact ⟨_, _, .failed (.literal long hread) (isFirstFree_firstFree _ _)⟩

/-- What is recorded gets a new variable. -/
theorem Writes.not_contains (writes : Writes text ms store name value)
    (needs : NeedsRecord text store) : store.contains name = false := by
  cases writes with
  | own reading assigned =>
    have hnone := Action.assigned?_eq_none_iff.mpr ((needsRecord_iff_of_read reading).mp needs)
    rw [hnone] at assigned
    cases assigned
  | unknown reading free => exact free.not_contains
  | failed failure free => exact free.not_contains

/-- **Every text has an outcome**, in every store, as long as the clock shows a time.  As a
condition it gets a verdict; the store is only read.  As a statement it writes one variable and
leaves all others as they were; where it has to be recorded the variable is new. -/
theorem every_text_has_outcome (text : String) (store : Store) {sources : Sources} {ms : Int}
    (time : milliseconds sources.clock = .ok ms) :
    Decided text store sources (evaluateCondition text store sources) ∧
      ∃ name value, Writes text ms store name value ∧
        (execute text store sources).fault = none ∧
        (execute text store sources).store = Store.set store name value ∧
        (∀ other, other ≠ name →
          Store.get? (execute text store sources).store other = Store.get? store other) ∧
        (NeedsRecord text store → store.contains name = false) := by
  refine ⟨decided_evaluateCondition text store sources, ?_⟩
  obtain ⟨name, value, hwrites⟩ := exists_writes text ms store
  obtain ⟨hfault, hstore⟩ := execute_of_writes time hwrites
  refine ⟨name, value, hwrites, hfault, hstore, fun other hother => ?_, hwrites.not_contains⟩
  rw [hstore, Store.get?_set_of_ne _ _ hother.symm]

/-- An unknown statement, where the first name for its record is taken. -/
theorem outcome_of_dance :
    milliseconds (.steady .zero) = .ok 0 ∧
      ∃ name value, Writes "dance" 0 (Store.set .empty "action_0" (.flag true)) name value ∧
        (execute "dance" (Store.set .empty "action_0" (.flag true))
          { chance := fun _ => .zero, clock := .steady .zero }).store =
            Store.set (Store.set .empty "action_0" (.flag true)) name value ∧
        (Store.set .empty "action_0" (.flag true)).contains name = false := by
  have htime : milliseconds (.steady .zero) = .ok 0 := by decide +kernel
  have hneeds : NeedsRecord "dance" (Store.set .empty "action_0" (.flag true)) :=
    @NeedsRecord.unknown _ _ "dance" (by decide +kernel)
  obtain ⟨-, name, value, hwrites, -, hstore, -, hnew⟩ :=
    @every_text_has_outcome "dance" (Store.set .empty "action_0" (.flag true))
      { chance := fun _ => .zero, clock := .steady .zero } 0 htime
  exact ⟨htime, name, value, hwrites, hstore, hnew hneeds⟩

end

end Colloquy
