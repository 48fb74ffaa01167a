import Colloquy.Proofs.Roster
import Colloquy.Proofs.Script.Kept

/-!
# Records in a row

A script of unknown statements loses none of them.  Each of them reads the clock once.  Those that
are shown one time compete for the names that are made of it, some of which may be taken already,
with gaps between them; still each statement gets a new variable of its own, under the first name
that is free when its turn comes.

* `KeepsAll`: unknown statements are all kept, each under a name of its own;
* `KeepsAll.nil`, `KeepsAll.append_singleton`: no statement, and one statement more;
* `exists_keepsAll`: if the clock shows times, statements in a row are all kept;
* `executeLines_of_no_time`: if it shows none at first, the first statement breaks the execution
  off;
* `unknown_statements_kept`: both for a script.
-/

namespace Colloquy

open Text

/-- Statements are executed to their end and leave one new variable each, in order and behind the
variables that the store had, which stay as they were.  The times of the readings of the clock are
given. -/
structure KeepsAll (lines names : List String) (ms : Nat → Int) (store : Store)
    (sources : Sources) : Prop where
  whole : (executeLines lines store sources).fault = none
  /-- Each statement reads the clock once. -/
  clock_eq : (executeLines lines store sources).sources.clock = sources.clock.after lines.length
  length_eq : names.length = lines.length
  distinct : names.Nodup
  new : ∀ name ∈ names, store.contains name = false
  toList_eq : (executeLines lines store sources).store.toList =
    store.toList ++ names.zip (lines.map Value.text)
  /-- Each name is the first free one after the statements before it. -/
  first : ∀ i name, names[i]? = some name →
    IsFirstFree (executeLines (lines.take i) store sources).store ("action_" ++ toString (ms i))
      name

variable {lines names : List String} {line script : String} {ms : Nat → Int} {store : Store}
  {sources : Sources}

theorem KeepsAll.nil (ms : Nat → Int) (store : Store) (sources : Sources) :
    KeepsAll [] [] ms store sources where
  whole := rfl
  clock_eq := rfl
  length_eq := rfl
  distinct := List.nodup_nil
  new := nofun
  toList_eq := (List.append_nil _).symm
  first i name h := by cases h

/-- The keys after statements that are all kept. -/
theorem KeepsAll.keys_eq (h : KeepsAll lines names ms store sources) :
    (executeLines lines store sources).store.keys = store.keys ++ names := by
  have hlength : names.length ≤ (lines.map Value.text).length := by
    rw [List.length_map, h.length_eq]
  rw [Roster.keys, h.toList_eq, List.map_append, List.map_fst_zip hlength]
  rfl

theorem KeepsAll.append_singleton
    (time : milliseconds (sources.clock.after lines.length) = .ok (ms lines.length))
    (reading : Action.read line = .ok (.unknown line))
    (h : KeepsAll lines names ms store sources) :
    ∃ name, KeepsAll (lines ++ [line]) (names ++ [name]) ms store sources := by
  have hclock : milliseconds (executeLines lines store sources).sources.clock =
      .ok (ms lines.length) := by rwa [h.clock_eq]
  have hnext : executeLines (lines ++ [line]) store sources =
      execute line (executeLines lines store sources).store
        (executeLines lines store sources).sources := by
    rw [executeLines_append, List.foldl_cons, List.foldl_nil, next_of_running h.whole]
  have hexecute := @execute_of_unknown line (executeLines lines store sources).store _ _ hclock
    line reading
  have hfirst := isFirstFree_firstFree (executeLines lines store sources).store
    ("action_" ++ toString (ms lines.length))
  generalize firstFree _ _ = name at hexecute hfirst
  -- the name is free, so it is neither one of the store nor one that was given before
  have hfree : name ∉ store.keys ++ names := by
    rw [← h.keys_eq, ← Roster.contains_iff, hfirst.not_contains]
    exact Bool.false_ne_true
  obtain ⟨hstore, hnames⟩ := not_or.mp (mt List.mem_append.mpr hfree)
  refine ⟨name, ?_, ?_, ?_, ?_, ?_, ?_, ?_⟩
  · rw [hnext, hexecute]
  · rw [hnext, hexecute, List.length_append, ← Clock.after_after, ← h.clock_eq]
    rfl
  · rw [List.length_append, List.length_append, h.length_eq]
    rfl
  · exact h.distinct.append (List.nodup_singleton name) (List.disjoint_singleton.mpr hnames)
  · intro other hother
    rcases List.mem_append.mp hother with hother | hother
    · exact h.new other hother
    · rw [List.mem_singleton.mp hother, ← Bool.not_eq_true, Roster.contains_iff]
      exact hstore
  · have hkey : name ∉ (executeLines lines store sources).store.keys := by rwa [h.keys_eq]
    have hlength : names.length = (lines.map Value.text).length := by
      rw [List.length_map, h.length_eq]
    rw [hnext, hexecute, Store.set, Roster.toList_put_of_new hkey, h.toList_eq, List.map_append,
      List.zip_append hlength, List.append_assoc]
    rfl
  · intro i other hother
    by_cases hi : i < names.length
    · rw [List.getElem?_append_left hi] at hother
      rw [List.take_append_of_le_length (by rw [← h.length_eq]; exact hi.le)]
      exact h.first i other hother
    · -- only the name of the last statement is left
      rw [List.getElem?_append_right (Nat.not_lt.mp hi), List.getElem?_singleton] at hother
      split at hother
      · next hlast =>
        cases hother
        obtain rfl : i = lines.length := by rw [← h.length_eq]; omega
        rw [List.take_left]
        exact hfirst
      · cases hother

/-- If the clock shows a time for each of them, unknown statements in a row are all kept. -/
theorem exists_keepsAll
    (time : ∀ k < lines.length, milliseconds (sources.clock.after k) = .ok (ms k))
    (reading : ∀ line ∈ lines, Action.read line = .ok (.unknown line)) :
    ∃ names, KeepsAll lines names ms store sources := by
  induction lines using List.reverseRecOn with
  | nil => exact ⟨[], .nil ms store sources⟩
  | append_singleton lines line ih =>
    obtain ⟨hlines, hline⟩ := List.forall_mem_append.mp reading
    rw [List.length_append] at time
    obtain ⟨names, hkeeps⟩ := ih (fun k hk => time k (Nat.lt_add_right _ hk)) hlines
    obtain ⟨name, hlast⟩ := hkeeps.append_singleton (time _ (Nat.lt_add_one _))
      (hline line List.mem_cons_self)
    exact ⟨names ++ [name], hlast⟩

/-- If the clock shows no time at first, the first unknown statement breaks the execution off. -/
theorem executeLines_of_no_time (now : ¬ ShowsTime sources.clock)
    (again : ¬ ShowsTime (sources.clock.after 1))
    (reading : ∀ line ∈ lines, Action.read line = .ok (.unknown line)) :
    (executeLines lines store sources).store = store ∧
      ((executeLines lines store sources).fault ≠ none ↔ lines ≠ []) := by
  cases lines with
  | nil => exact ⟨rfl, by simp⟩
  | cons line rest =>
    have hfault : (execute line store sources).fault ≠ none :=
      fault_execute_iff.mpr
        ⟨.unknown (reading line List.mem_cons_self), now, fun _ _ => again⟩
    have hrest : executeLines (line :: rest) store sources = execute line store sources :=
      foldl_next_of_fault hfault rest
    rw [hrest]
    exact ⟨store_execute_of_fault hfault, by simp [hfault]⟩

/-- **No unknown statement is lost** if the clock shows a time for each one: a script of such
statements gives each of them a new variable under the first free name, whatever names are taken,
and leaves all other variables as they were.  If the clock shows no time at first, such a script
leaves all variables as they were, and breaks off unless it is empty. -/
theorem unknown_statements_kept
    (unknown : ∀ line ∈ scriptLines script, isUnknownStatement line = true) (store : Store)
    (sources : Sources) :
    (∀ ms : Nat → Int,
      (∀ k < (scriptLines script).length, milliseconds (sources.clock.after k) = .ok (ms k)) →
        ∃ names, KeepsAll (scriptLines script) names ms store sources) ∧
    (¬ ShowsTime sources.clock → ¬ ShowsTime (sources.clock.after 1) →
      (executeScript script store sources).store = store ∧
        ((executeScript script store sources).fault ≠ none ↔ scriptLines script ≠ [])) := by
  have reading : ∀ line ∈ scriptLines script, Action.read line = .ok (.unknown line) :=
    fun line hline =>
      Action.read_of_isUnknownStatement (trim_of_mem_scriptLines hline) (unknown line hline)
  exact ⟨fun ms time => exists_keepsAll time reading,
    fun now again => executeLines_of_no_time now again reading⟩

/-- Sources with a clock that passes from the first moment to the next second after two readings. -/
def passingSecond : Sources where
  chance _ := .zero
  clock := { shows := fun k => if k < 2 then .zero else .ofRat 1 }

/-- Three statements in a store where the second of the names is free and the third is taken. -/
theorem unknown_statements_kept_in_gap :
    (∀ line ∈ scriptLines "dance\n# twice\n sing\n\nhum", isUnknownStatement line = true) ∧
      ∃ names, KeepsAll (scriptLines "dance\n# twice\n sing\n\nhum") names
        (fun k => if k < 2 then 0 else 1000)
        (Store.set (Store.set .empty "action_0" (.flag true)) "action_0_2" (.flag true))
        passingSecond := by
  have unknown : ∀ line ∈ scriptLines "dance\n# twice\n sing\n\nhum",
      isUnknownStatement line = true := by decide +kernel
  exact ⟨unknown, (unknown_statements_kept unknown _ _).1 _ (by decide +kernel)⟩

example : (executeScript "dance\n# twice\n sing\n\nhum"
    (Store.set (Store.set .empty "action_0" (.flag true)) "action_0_2" (.flag true))
    passingSecond).store.keys =
      ["action_0", "action_0_2", "action_0_1", "action_0_3", "action_1000"] := by
  decide +kernel

end Colloquy
