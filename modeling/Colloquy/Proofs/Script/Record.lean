import Colloquy.Script.Execution

/-!
# Records

When a statement has to be recorded, and when that breaks an execution off.  A record is named after
the time in milliseconds, so none can be made while the clock shows no time that has any: an
infinite one, one that is not a number, or one so large that the product is infinite.

* `Clock.Agrees`, `Clock.IsSteady`: clocks that go on alike, and one that stands still;
* `ShowsTime`, `KeepsTime`: the clock shows a time in milliseconds next, and at all readings;
* `NeedsRecord`: a statement is recorded instead of being carried out;
* `LacksTime`: it cannot be recorded;
* `BreaksOff`: a script cannot be executed to its end;
* `fault_executeScript_iff`: an execution ends with a fault exactly if the script breaks off;
* `executeScript_congr`: of all sources only the clock matters to what a script leaves.
-/

namespace Colloquy

/-! ### Clocks -/

namespace Clock

variable {a b clock : Clock}

/-- Clocks that show the same from now on. -/
def Agrees (a b : Clock) : Prop := ∀ k, (a.after k).now = (b.after k).now

/-- A clock that shows the same from now on as at its next reading. -/
def IsSteady (clock : Clock) : Prop := ∀ k, (clock.after k).now = clock.now

theorem Agrees.after (h : a.Agrees b) (n : Nat) : (a.after n).Agrees (b.after n) := fun k => by
  rw [after_after, after_after]
  exact h (n + k)

theorem IsSteady.agrees_after (h : clock.IsSteady) (n : Nat) : (clock.after n).Agrees clock :=
  fun k => by rw [after_after, h, h]

theorem isSteady_steady (x : Double) : (steady x).IsSteady := fun _ => rfl

end Clock

theorem milliseconds_congr {a b : Clock} (h : a.now = b.now) : milliseconds a = milliseconds b := by
  rw [milliseconds, milliseconds, h]

/-- The clock shows a time in milliseconds at its next reading. -/
def ShowsTime (clock : Clock) : Prop := ∃ ms, milliseconds clock = .ok ms

instance (clock : Clock) : Decidable (ShowsTime clock) :=
  match h : milliseconds clock with
  | .ok ms => .isTrue ⟨ms, h⟩
  | .error _ => .isFalse fun ⟨_, hms⟩ => nomatch h.symm.trans hms

theorem showsTime_congr {a b : Clock} (h : a.now = b.now) : ShowsTime a ↔ ShowsTime b := by
  rw [ShowsTime, ShowsTime, milliseconds_congr h]

/-- The clock shows a time in milliseconds from now on. -/
def KeepsTime (clock : Clock) : Prop := ∀ k, ShowsTime (clock.after k)

theorem KeepsTime.after {clock : Clock} (h : KeepsTime clock) (n : Nat) :
    KeepsTime (clock.after n) := fun k => by
  rw [Clock.after_after]
  exact h (n + k)

/-- A clock that stands still keeps the time that it shows. -/
theorem Clock.IsSteady.keepsTime_iff {clock : Clock} (h : clock.IsSteady) :
    KeepsTime clock ↔ ShowsTime clock :=
  ⟨fun keeps => keeps 0, fun shows k => (showsTime_congr (h k)).mpr shows⟩

-- The greatest finite time has too many milliseconds.
example : ¬ ShowsTime (.steady (.finite false 0x7FEFFFFFFFFFFFFF)) := by decide +kernel

/-! ### Records -/

/-- A statement that is recorded in a store instead of being carried out. -/
inductive NeedsRecord (text : String) (store : Store) : Prop
  /-- It cannot be read. -/
  | unread {e : NumberError} (reading : Action.read text = .error e)
  /-- It is unknown. -/
  | unknown {body : String} (reading : Action.read text = .ok (.unknown body))
  /-- It changes the health by more than can be added. -/
  | overflow {delta : Int} {e : NumberError}
      (reading : Action.read text = .ok (.modifyHealth delta))
      (failure : adjustHealth store delta = .error e)

/-- A statement that has to be recorded while the clock shows no time.  That an unknown one cannot
be recorded is to be recorded in its turn, at the reading after that. -/
structure LacksTime (text : String) (store : Store) (clock : Clock) : Prop where
  needs : NeedsRecord text store
  now : ¬ ShowsTime clock
  again : ∀ body, Action.read text = .ok (.unknown body) → ¬ ShowsTime (clock.after 1)

/-- A script breaks off in a store: one of the statements cannot be recorded after those before
it. -/
def BreaksOff (script : String) (store : Store) (sources : Sources) : Prop :=
  ∃ before line after, scriptLines script = before ++ line :: after ∧
    LacksTime line (executeLines before store sources).store
      (executeLines before store sources).sources.clock

variable {text script word content : String} {store : Store} {sources : Sources} {clock : Clock}

/-! ### One statement -/

theorem record_of_milliseconds {ms : Int} (h : milliseconds clock = .ok ms) :
    record word clock store content =
      .ok (Store.set store (firstFree store (word ++ "_" ++ toString ms)) (.text content)) := by
  simp [record, recordKey, h, Except.map]

theorem record_of_error {e : NumberError} (h : milliseconds clock = .error e) :
    record word clock store content = .error e := by
  simp [record, recordKey, h, Except.map]

theorem fault_recordFailure_iff {e : NumberError} :
    (recordFailure text e store sources).fault ≠ none ↔ ¬ ShowsTime sources.clock := by
  cases h : milliseconds sources.clock with
  | ok ms => simp [recordFailure, record_of_milliseconds h, ShowsTime, h]
  | error e => simp [recordFailure, record_of_error h, ShowsTime, h]

theorem needsRecord_iff_of_read {action : Action} (reading : Action.read text = .ok action) :
    NeedsRecord text store ↔
      action.isUnknown = true ∨
        ∃ delta e, action = .modifyHealth delta ∧ adjustHealth store delta = .error e := by
  constructor
  · rintro (⟨h⟩ | ⟨h⟩ | ⟨h, failure⟩) <;> rw [reading] at h
    · cases h
    · cases h
      exact .inl rfl
    · cases h
      exact .inr ⟨_, _, rfl, failure⟩
  · rintro (h | ⟨delta, e, rfl, failure⟩)
    · cases action <;> cases h
      exact .unknown reading
    · exact .overflow reading failure

/-- An action fails exactly if it needs a record that cannot be made, or changes the health by too
much. -/
theorem apply_eq_error_iff {action : Action} :
    (∃ e, action.apply clock store = .error e) ↔
      (action.isUnknown = true ∧ ¬ ShowsTime clock) ∨
        ∃ delta e, action = .modifyHealth delta ∧ adjustHealth store delta = .error e := by
  cases action with
  | unknown body =>
    cases h : milliseconds clock with
    | ok ms => simp [Action.apply, record_of_milliseconds h, Action.isUnknown, ShowsTime, h]
    | error e => simp [Action.apply, record_of_error h, Action.isUnknown, ShowsTime, h]
  | modifyHealth delta =>
    cases h : adjustHealth store delta <;>
      simp [Action.apply, Action.isUnknown, h, Except.map]
  | setVariable | setItem | completeQuest => simp [Action.apply, Action.isUnknown]

/-- A statement breaks an execution off exactly if it cannot be recorded. -/
theorem fault_execute_iff :
    (execute text store sources).fault ≠ none ↔ LacksTime text store sources.clock := by
  unfold execute
  cases hread : Action.read text with
  | error e =>
    dsimp only
    rw [fault_recordFailure_iff]
    exact ⟨fun time => ⟨.unread hread, time, fun body h => nomatch hread.symm.trans h⟩,
      fun lacks => lacks.now⟩
  | ok action =>
    dsimp only
    cases happly : action.apply sources.clock store with
    | ok changed =>
      have hnot : ¬ ∃ e, action.apply sources.clock store = .error e := by simp [happly]
      rw [apply_eq_error_iff, not_or] at hnot
      refine ⟨fun h => absurd rfl h, fun lacks => ?_⟩
      rcases (needsRecord_iff_of_read hread).mp lacks.needs with unknown | overflow
      · exact absurd ⟨unknown, lacks.now⟩ hnot.1
      · exact absurd overflow hnot.2
    | error e =>
      dsimp only
      rw [fault_recordFailure_iff]
      rcases apply_eq_error_iff.mp ⟨e, happly⟩ with ⟨unknown, now⟩ | ⟨delta, e', rfl, failure⟩
      · cases action <;> cases unknown
        exact ⟨fun again => ⟨.unknown hread, now, fun _ _ => again⟩,
          fun lacks => lacks.again _ hread⟩
      · exact ⟨fun now => ⟨.overflow hread failure, now, fun _ h => nomatch hread.symm.trans h⟩,
          fun lacks => lacks.now⟩

/-- A statement that meets a time gets through. -/
theorem fault_execute_of_showsTime (time : ShowsTime sources.clock) :
    (execute text store sources).fault = none :=
  Classical.byContradiction fun broken => (fault_execute_iff.mp broken).now time

theorem store_recordFailure_of_fault {e : NumberError}
    (h : (recordFailure text e store sources).fault ≠ none) :
    (recordFailure text e store sources).store = store := by
  unfold recordFailure at h ⊢
  dsimp only at h ⊢
  split
  · next hrecord =>
    rw [hrecord] at h
    exact absurd rfl h
  · rfl

/-- A statement that breaks an execution off changes no variable. -/
theorem store_execute_of_fault (h : (execute text store sources).fault ≠ none) :
    (execute text store sources).store = store := by
  unfold execute at h ⊢
  split
  · next hread =>
    rw [hread] at h
    exact store_recordFailure_of_fault h
  · next hread =>
    simp only [hread] at h
    split
    · next happly =>
      rw [happly] at h
      exact absurd rfl h
    · next happly =>
      rw [happly] at h
      exact store_recordFailure_of_fault h

/-! ### Sources of a statement -/

/-- Execution reads the clock and writes into the journal, and takes nothing else from the
sources. -/
theorem sources_execute (text : String) (store : Store) (sources : Sources) :
    ∃ journal n, (execute text store sources).sources =
      { sources with journal, clock := sources.clock.after n } := by
  have hfailure (left : Sources) (e : NumberError) :
      (recordFailure text e store left).sources = (left.note (.actionFailed text e)).tick := by
    unfold recordFailure
    dsimp only
    split <;> rfl
  unfold execute
  split
  · exact ⟨_, 1, hfailure _ _⟩
  · next action _ =>
    have hleft : ∃ journal n, action.leave sources =
        { sources with journal, clock := sources.clock.after n } := by
      cases action with
      | unknown => exact ⟨_, 1, rfl⟩
      | setVariable | setItem | completeQuest | modifyHealth => exact ⟨sources.journal, 0, rfl⟩
    obtain ⟨journal, n, hleft⟩ := hleft
    split
    · exact ⟨journal, n, hleft⟩
    · next e _ =>
      refine ⟨.actionFailed text e :: journal, n + 1, ?_⟩
      rw [hfailure, hleft, Sources.note, Sources.tick, Clock.after_after]

theorem exists_clock_execute (text : String) (store : Store) (sources : Sources) :
    ∃ n, (execute text store sources).sources.clock = sources.clock.after n := by
  obtain ⟨journal, n, h⟩ := sources_execute text store sources
  exact ⟨n, by rw [h]⟩

/-- Of all sources only the clock matters to what a statement leaves. -/
theorem execute_congr {a b : Sources} (h : a.clock.Agrees b.clock) (text : String)
    (store : Store) :
    (execute text store a).store = (execute text store b).store ∧
      (execute text store a).fault = (execute text store b).fault ∧
      (execute text store a).sources.clock.Agrees (execute text store b).sources.clock := by
  have hrecord {a b : Clock} (h : a.Agrees b) (word content : String) :
      record word a store content = record word b store content := by
    have hms : milliseconds a = milliseconds b := milliseconds_congr (h 0)
    rw [record, record, recordKey, recordKey, hms]
  have hfailure {a b : Sources} (h : a.clock.Agrees b.clock) (e : NumberError) :
      (recordFailure text e store a).store = (recordFailure text e store b).store ∧
        (recordFailure text e store a).fault = (recordFailure text e store b).fault ∧
        (recordFailure text e store a).sources.clock.Agrees
          (recordFailure text e store b).sources.clock := by
    simp only [recordFailure, hrecord h]
    split <;> exact ⟨rfl, rfl, h.after 1⟩
  unfold execute
  split
  · exact hfailure h _
  · next action _ =>
    have happly : action.apply a.clock store = action.apply b.clock store := by
      cases action with
      | unknown body => exact hrecord h "action" body
      | setVariable | setItem | completeQuest | modifyHealth => rfl
    have hleave : (action.leave a).clock.Agrees (action.leave b).clock := by
      cases action with
      | unknown => exact h.after 1
      | setVariable | setItem | completeQuest | modifyHealth => exact h
    simp only [happly]
    split
    · exact ⟨rfl, rfl, hleave⟩
    · exact hfailure hleave _

/-! ### Scripts -/

theorem next_of_fault {x : Execution} (h : x.fault ≠ none) (line : String) : x.next line = x := by
  obtain ⟨e, he⟩ := Option.ne_none_iff_exists'.mp h
  simp [Execution.next, he]

theorem next_of_running {x : Execution} (h : x.fault = none) (line : String) :
    x.next line = execute line x.store x.sources := by
  simp [Execution.next, h]

theorem foldl_next_of_fault {x : Execution} (h : x.fault ≠ none) (lines : List String) :
    lines.foldl Execution.next x = x := by
  induction lines with
  | nil => rfl
  | cons line rest ih => rw [List.foldl_cons, next_of_fault h, ih]

/-- An execution that goes on breaks off exactly if a statement cannot be recorded after those
before it. -/
theorem fault_foldl_next_iff (lines : List String) {x : Execution} (hx : x.fault = none) :
    (lines.foldl Execution.next x).fault ≠ none ↔
      ∃ before line after, lines = before ++ line :: after ∧
        LacksTime line (before.foldl Execution.next x).store
          (before.foldl Execution.next x).sources.clock := by
  induction lines generalizing x with
  | nil => simp [hx]
  | cons line rest ih =>
    rw [List.foldl_cons]
    have hnext := next_of_running hx line
    have hline := @fault_execute_iff line x.store x.sources
    rw [← hnext] at hline
    by_cases hfault : (x.next line).fault = none
    · -- the first statement is carried out, so the one that breaks off is among the others
      rw [ih hfault]
      constructor
      · rintro ⟨before, failing, after, rfl, lacks⟩
        exact ⟨line :: before, failing, after, rfl, lacks⟩
      · rintro ⟨_ | ⟨first, before⟩, failing, after, hlines, lacks⟩
        · cases hlines
          exact absurd hfault (hline.mpr lacks)
        · cases hlines
          exact ⟨before, failing, after, rfl, lacks⟩
    · rw [foldl_next_of_fault hfault]
      exact ⟨fun _ => ⟨[], line, rest, rfl, hline.mp hfault⟩, fun _ => hfault⟩

/-- An execution ends with a fault exactly if the script breaks off. -/
theorem fault_executeScript_iff :
    (executeScript script store sources).fault ≠ none ↔ BreaksOff script store sources :=
  fault_foldl_next_iff _ rfl

theorem exists_clock_next (line : String) (x : Execution) :
    ∃ n, (x.next line).sources.clock = x.sources.clock.after n := by
  by_cases hx : x.fault = none
  · rw [next_of_running hx]
    exact exists_clock_execute line x.store x.sources
  · rw [next_of_fault hx]
    exact ⟨0, rfl⟩

theorem exists_clock_foldl_next (lines : List String) (x : Execution) :
    ∃ n, (lines.foldl Execution.next x).sources.clock = x.sources.clock.after n := by
  induction lines generalizing x with
  | nil => exact ⟨0, rfl⟩
  | cons line rest ih =>
    obtain ⟨n, hline⟩ := exists_clock_next line x
    obtain ⟨m, hrest⟩ := ih (x.next line)
    exact ⟨n + m, by rw [List.foldl_cons, hrest, hline, Clock.after_after]⟩

/-- A script reads the clock some times. -/
theorem exists_clock_executeScript (script : String) (store : Store) (sources : Sources) :
    ∃ n, (executeScript script store sources).sources.clock = sources.clock.after n :=
  exists_clock_foldl_next _ _

theorem not_breaksOff_of_keepsTime (h : KeepsTime sources.clock) :
    ¬ BreaksOff script store sources := by
  rintro ⟨before, line, after, -, lacks⟩
  obtain ⟨n, hclock⟩ := exists_clock_foldl_next before { store, sources }
  exact lacks.now (hclock ▸ h n)

theorem foldl_next_congr (lines : List String) {x y : Execution} (hstore : x.store = y.store)
    (hfault : x.fault = y.fault) (hclock : x.sources.clock.Agrees y.sources.clock) :
    (lines.foldl Execution.next x).store = (lines.foldl Execution.next y).store ∧
      (lines.foldl Execution.next x).fault = (lines.foldl Execution.next y).fault := by
  induction lines generalizing x y with
  | nil => exact ⟨hstore, hfault⟩
  | cons line rest ih =>
    rw [List.foldl_cons, List.foldl_cons]
    by_cases hx : x.fault = none
    · have hy : y.fault = none := hfault ▸ hx
      rw [next_of_running hx, next_of_running hy, ← hstore]
      obtain ⟨hstore', hfault', hclock'⟩ := execute_congr hclock line x.store
      exact ih hstore' hfault' hclock'
    · have hy : y.fault ≠ none := hfault ▸ hx
      rw [next_of_fault hx, next_of_fault hy]
      exact ih hstore hfault hclock

/-- Of all sources only the clock matters to what a script leaves. -/
theorem executeScript_congr {a b : Sources} (h : a.clock.Agrees b.clock) (script : String)
    (store : Store) :
    (executeScript script store a).store = (executeScript script store b).store ∧
      (executeScript script store a).fault = (executeScript script store b).fault :=
  foldl_next_congr _ rfl rfl h

end Colloquy
