import Colloquy.Proofs.Script.Lines
import Colloquy.Proofs.Script.Outcome

/-!
# Statements that are kept

A statement that is unknown is kept: it stands itself in the store afterwards, under the name of a
new record, and nothing else changes.  No other statement leaves the store like that.

* `Execution.keeps`, `Execution.kept`: the statements that are kept, seen from the stores alone;
* `isUnknownStatement`: a text is read as an unknown statement;
* `length_lt_of_assigned`: a text that a statement puts into a variable is shorter than it;
* `Execution.keeps_iff`: a statement is kept exactly if it is unknown and the clock shows a time;
* `Execution.kept_eq_filter`, `Execution.kept_eq_nil`, `Execution.kept_sublist`: the same for
  statements in a row, while the clock always shows a time, while it never does, and at all times.
-/

namespace Colloquy

open Text

/-- Whether all that the next statement does is to stand in the store under the name of a new
record. -/
def Execution.keeps (x : Execution) (line : String) : Bool :=
  match recordKey "action" x.sources.clock x.store with
  | .ok name => decide ((x.next line).store = Store.set x.store name (.text line))
  | .error _ => false

/-- The statements that are kept while the given ones are executed. -/
def Execution.kept (x : Execution) : List String → List String
  | [] => []
  | line :: rest =>
    if x.keeps line then line :: (x.next line).kept rest else (x.next line).kept rest

/-- The statements of a script that are kept. -/
def keptStatements (script : String) (store : Store) (sources : Sources) : List String :=
  Execution.kept { store, sources } (scriptLines script)

/-- Whether a text is read as an unknown statement. -/
def isUnknownStatement (line : String) : Bool :=
  match Action.read line with
  | .ok action => action.isUnknown
  | .error _ => false

/-! ### Texts in variables -/

section Texts

variable {s t phrase : List Char} {text : String} {action : Action} {store : Store}
  {name value : String} {ms : Int}

theorem Text.length_unwrap_le (s : List Char) : (unwrap s).length ≤ s.length := by
  unfold unwrap
  split
  · exact le_rfl
  · split
    · simp only [List.length_dropLast, List.length_cons]
      omega
    · exact le_rfl

theorem Value.eq_of_read_text (h : Value.read text = .ok (.text value)) : value = text := by
  unfold Value.read at h
  dsimp only at h
  split at h
  · next l _ => cases hvalue : l.value <;> rw [hvalue] at h <;> cases h
  · split at h <;> cases h
    rfl

theorem Action.length_le_of_valueOf (h : valueOf phrase = .ok (.text value)) :
    value.length ≤ phrase.length := by
  unfold valueOf at h
  cases hread : Value.read (String.ofList phrase) with
  | error e =>
    rw [hread] at h
    cases h
  | ok v =>
    rw [hread] at h
    cases v with
    | text body =>
      cases h
      rw [Value.eq_of_read_text hread, unwrapped, String.length_ofList, String.toList_ofList]
      exact length_unwrap_le phrase
    | integer | real | flag => cases h

/-- A statement is longer than the keyword that it spells and what stands behind that. -/
theorem Action.length_lt_of_operand? {keyword : String} (h : operand? keyword s = some t) :
    keyword.length + t.length < s.length := by
  obtain ⟨word, gap, spells, ⟨hgap, -⟩, rfl, -⟩ := operand?_eq_some_iff.mp h
  have hword : word.length = keyword.length := (List.Forall₂.length_eq spells).symm
  have hpos := List.length_pos_iff.mpr hgap
  simp only [List.length_append]
  omega

/-- A text that a statement puts into a variable is shorter than the statement. -/
theorem length_lt_of_assigned (hread : Action.readTrimmed s = .ok action)
    (assigned : action.assigned? store = some (name, .text value)) : value.length < s.length := by
  unfold Action.readTrimmed at hread
  split at hread
  · next own phrase hset =>
    obtain ⟨rest, hoperand, hassignment⟩ := Option.bind_eq_some_iff.mp hset
    obtain ⟨gap, -, rfl, -⟩ := Action.assignment?_eq_some_iff.mp hassignment
    have hlonger := Action.length_lt_of_operand? hoperand
    cases hvalue : Action.valueOf phrase with
    | error e =>
      rw [hvalue] at hread
      cases hread
    | ok v =>
      rw [hvalue] at hread
      cases hread
      cases assigned
      have hle := Action.length_le_of_valueOf hvalue
      simp only [List.length_append] at hlonger
      omega
  · split at hread
    · cases hread
      cases assigned
    · split at hread
      · cases hread
        cases assigned
      · split at hread
        · next quest hquest =>
          -- the only other text is the state of a completed quest
          obtain ⟨rest, hoperand, -⟩ := Option.bind_eq_some_iff.mp hquest
          have hlonger := Action.length_lt_of_operand? hoperand
          cases hread
          cases assigned
          have hkeyword : "completequest".length = 13 := rfl
          have hstate : "completed".length = 9 := rfl
          omega
        · split at hread
          · next delta _ =>
            cases hvalue : delta.value with
            | error e =>
              rw [hvalue] at hread
              cases hread
            | ok n =>
              rw [hvalue] at hread
              cases hread
              obtain ⟨h, -, hown⟩ := Option.map_eq_some_iff.mp assigned
              cases h <;> cases hown
          · cases hread
            cases assigned

end Texts

/-! ### One statement -/

section

variable {x : Execution} {line : String} {lines : List String}

/-- No statement but an unknown one puts itself into the store. -/
theorem Writes.isUnknownStatement_of_text {ms : Int} {store : Store} {name : String}
    (trimmed : trim line.toList = line.toList) (writes : Writes line ms store name (.text line)) :
    isUnknownStatement line = true := by
  generalize hvalue : Value.text line = value at writes
  cases writes with
  | own reading assigned =>
    rw [← hvalue] at assigned
    rw [Action.read, trimmed] at reading
    have hlength := length_lt_of_assigned reading assigned
    rw [String.length_toList] at hlength
    exact absurd hlength (Nat.lt_irrefl _)
  | unknown reading => simp only [isUnknownStatement, reading, Action.isUnknown]
  | @failed name e _ _ =>
    -- a record of a failure is longer than the statement
    have hlength := congrArg String.length (Value.text.inj hvalue)
    have hsame : strip line = line := by rw [strip, trimmed, String.ofList_toList]
    have hcolon : ": ".length = 2 := rfl
    simp only [String.length_append, hsame] at hlength
    omega

/-- An unknown statement without blanks around it is read as its own text. -/
theorem Action.read_of_isUnknownStatement (trimmed : trim line.toList = line.toList)
    (hunknown : isUnknownStatement line = true) : Action.read line = .ok (.unknown line) := by
  unfold isUnknownStatement at hunknown
  rcases Action.readTrimmed_cases (trim line.toList) with ⟨action, reading, hown⟩ |
    ⟨e, reading, -⟩
  · rw [Action.read, reading] at hunknown ⊢
    rw [hown hunknown, trimmed, String.ofList_toList]
  · rw [Action.read, reading] at hunknown
    cases hunknown

/-- A new record is not in the store yet. -/
theorem set_firstFree_ne (store : Store) (base : String) (value : Value) :
    Store.set store (firstFree store base) value ≠ store := fun h => by
  have hget : Store.get? store (firstFree store base) = some value :=
    (congrArg (Store.get? · _) h).symm.trans (Store.get?_set_self _ _ _)
  rw [(isFirstFree_firstFree store base).get?_eq_none] at hget
  cases hget

/-- A statement is kept exactly if it is unknown and the clock shows a time. -/
theorem Execution.keeps_iff (running : x.fault = none) (trimmed : trim line.toList = line.toList) :
    x.keeps line = true ↔ ShowsTime x.sources.clock ∧ isUnknownStatement line = true := by
  unfold keeps recordKey
  cases time : milliseconds x.sources.clock with
  | error e => simp [ShowsTime, time, Except.map]
  | ok ms =>
    have hshows : ShowsTime x.sources.clock := ⟨ms, time⟩
    simp only [Except.map, decide_eq_true_eq, hshows, true_and, next_of_running running]
    have hfirst := isFirstFree_firstFree x.store ("action" ++ "_" ++ toString ms)
    constructor
    · intro hstore
      obtain ⟨name, value, hwrites⟩ := exists_writes line ms x.store
      rw [(execute_of_writes time hwrites).2] at hstore
      -- the name was free before, so it is the one that the statement writes
      have hget := congrArg (Store.get? · (firstFree x.store ("action" ++ "_" ++ toString ms)))
        hstore
      simp only [Store.get?_set, if_true] at hget
      split at hget
      · cases hget
        exact hwrites.isUnknownStatement_of_text trimmed
      · rw [hfirst.get?_eq_none] at hget
        cases hget
    · intro hunknown
      rw [execute_of_unknown time (Action.read_of_isUnknownStatement trimmed hunknown)]
      rfl

/-- Nothing is kept once an execution has broken off. -/
theorem Execution.keeps_of_fault (broken : x.fault ≠ none) (line : String) :
    x.keeps line = false := by
  unfold keeps recordKey
  rw [next_of_fault broken]
  cases milliseconds x.sources.clock with
  | error e => rfl
  | ok ms => exact decide_eq_false fun h => set_firstFree_ne _ _ _ h.symm

/-! ### Statements in a row -/

/-- While the clock always shows a time the unknown statements are kept, in order. -/
theorem Execution.kept_eq_filter (running : x.fault = none) (time : KeepsTime x.sources.clock)
    (trimmed : ∀ line ∈ lines, trim line.toList = line.toList) :
    x.kept lines = lines.filter isUnknownStatement := by
  induction lines generalizing x with
  | nil => rfl
  | cons line rest ih =>
    obtain ⟨hline, hrest⟩ := List.forall_mem_cons.mp trimmed
    have hgoes : (x.next line).fault = none := by
      rw [next_of_running running]
      exact fault_execute_of_showsTime (time 0)
    have hclock : KeepsTime (x.next line).sources.clock := by
      obtain ⟨n, h⟩ := exists_clock_next line x
      rw [h]
      exact time.after n
    have hkeeps : x.keeps line = isUnknownStatement line := by
      rw [Bool.eq_iff_iff, keeps_iff running hline]
      exact and_iff_right (time 0)
    rw [kept, ih hgoes hclock hrest, hkeeps, List.filter_cons]

/-- While the clock never shows a time nothing is kept. -/
theorem Execution.kept_eq_nil (never : ∀ k, ¬ ShowsTime (x.sources.clock.after k)) :
    x.kept lines = [] := by
  induction lines generalizing x with
  | nil => rfl
  | cons line rest ih =>
    have hkeeps : x.keeps line = false := by
      unfold keeps recordKey
      cases htime : milliseconds x.sources.clock with
      | error e => rfl
      | ok ms => exact absurd ⟨ms, htime⟩ (never 0)
    have hclock (k : Nat) : ¬ ShowsTime ((x.next line).sources.clock.after k) := by
      obtain ⟨n, h⟩ := exists_clock_next line x
      rw [h, Clock.after_after]
      exact never (n + k)
    rw [kept, hkeeps, ih hclock]
    rfl

/-- No other statement is kept, whatever the clock shows. -/
theorem Execution.kept_sublist (x : Execution)
    (trimmed : ∀ line ∈ lines, trim line.toList = line.toList) :
    (x.kept lines).Sublist (lines.filter isUnknownStatement) := by
  induction lines generalizing x with
  | nil => exact .slnil
  | cons line rest ih =>
    obtain ⟨hline, hrest⟩ := List.forall_mem_cons.mp trimmed
    have hsub := ih (x.next line) hrest
    rw [kept, List.filter_cons]
    by_cases hkeeps : x.keeps line = true
    · have running : x.fault = none := by
        by_contra broken
        rw [keeps_of_fault broken] at hkeeps
        cases hkeeps
      rw [if_pos hkeeps, if_pos ((keeps_iff running hline).mp hkeeps).2]
      exact hsub.cons_cons line
    · rw [if_neg hkeeps]
      split
      · exact hsub.cons line
      · exact hsub

end

end Colloquy
