import Colloquy.Proofs.Script.Outcome
import Colloquy.Proofs.Success

/-!
# Values of variables

Where the values of variables come from.  A statement writes a text, a flag, the value of a literal
that it spells, or a health between its bounds; nothing else gets into a store.  So what holds of
all these values holds of every variable that scripts have set.

* `Value.Arises`: the values that statements write;
* `Writes.arises`: statements write no others;
* `exists_writes_of_whole`, `store_execute_cases`: what a statement does to the store, at any time;
* `Store.AllValues`: a property of every value of a store;
* `allValues_execute`, `allValues_executeScript`: statements and scripts keep it.
-/

namespace Colloquy

/-- The values that statements write. -/
inductive Value.Arises : Value → Prop
  | text (s : String) : Arises (.text s)
  | flag (b : Bool) : Arises (.flag b)
  | integer {s : List Char} {l : IntegerLiteral} {n : Int}
      (reading : IntegerLiteral.read? s = some l) (value : l.value = .ok n) : Arises (.integer n)
  | decimal (l : DecimalLiteral) : Arises (.real l.value)
  | health (h : Number) : Arises (.ofNumber (clampHealth h))

/-- A property of every value of a store. -/
def Store.AllValues (P : Value → Prop) (store : Store) : Prop :=
  ∀ name v, Store.get? store name = some v → P v

/-! ### What statements write -/

section Writing

variable {text name s : String} {store : Store} {ms : Int} {value : Value} {action : Action}

theorem Value.arises_of_read (reading : Value.read s = .ok value) : value.Arises := by
  unfold Value.read at reading
  dsimp only at reading
  split at reading
  · next l hread =>
    obtain ⟨n, hn, rfl⟩ := map_eq_ok_iff.mp reading
    exact .integer hread hn
  · split at reading
    · next l _ =>
      cases reading
      exact .decimal l
    · cases reading
      exact .text s

theorem Action.arises_of_valueOf {phrase : List Char}
    (reading : Action.valueOf phrase = .ok value) : value.Arises := by
  obtain ⟨v, hv, hvalue⟩ := bind_eq_ok_iff.mp reading
  have harises := Value.arises_of_read hv
  cases v with
  | text =>
    cases hvalue
    exact .text _
  | integer | real | flag =>
    cases hvalue
    exact harises

theorem Action.arises_of_readTrimmed {s : List Char}
    (reading : Action.readTrimmed s = .ok (.setVariable name value)) : value.Arises := by
  unfold Action.readTrimmed at reading
  split at reading
  · obtain ⟨v, hv, hset⟩ := map_eq_ok_iff.mp reading
    cases hset
    exact Action.arises_of_valueOf hv
  · -- no other shape of a statement is read as one that sets a variable
    split at reading
    · cases reading
    · split at reading
      · cases reading
      · split at reading
        · cases reading
        · split at reading
          · obtain ⟨delta, -, hset⟩ := map_eq_ok_iff.mp reading
            cases hset
          · cases reading

theorem arises_of_assigned (reading : Action.read text = .ok action)
    (assigned : action.assigned? store = some (name, value)) : value.Arises := by
  cases action with
  | setVariable own v =>
    cases assigned
    exact Action.arises_of_readTrimmed reading
  | setItem item held =>
    cases assigned
    exact .flag held
  | completeQuest quest =>
    cases assigned
    exact .text _
  | modifyHealth delta =>
    rw [Action.assigned?, Option.map_eq_some_iff] at assigned
    obtain ⟨h, hhealth, hvalue⟩ := assigned
    cases hvalue
    cases hsum : (currentHealth store).add delta with
    | ok sum =>
      rw [adjustHealth, hsum] at hhealth
      cases hhealth
      exact .health sum
    | error e =>
      rw [adjustHealth, hsum] at hhealth
      cases hhealth
  | unknown => cases assigned

/-- What a statement writes is one of the values that arise. -/
theorem Writes.arises (writes : Writes text ms store name value) : value.Arises := by
  cases writes with
  | own reading assigned => exact arises_of_assigned reading assigned
  | unknown => exact .text _
  | failed => exact .text _

/-- A statement that fails is recorded. -/
theorem Failure.needsRecord {e : NumberError} (failure : Failure text store e) :
    NeedsRecord text store := by
  cases failure with
  | literal long reading => exact .unread reading
  | health reading current beyond =>
    exact .overflow reading (adjustHealth_eq_error_iff.mpr ⟨rfl, ⟨_, current⟩, beyond⟩)

/-- A statement that gets through, and is known or meets a time, sets the variable that it writes
and nothing else.  The time matters only if it is recorded. -/
theorem exists_writes_of_whole (whole : (execute text store sources).fault = none)
    (timely : ShowsTime sources.clock ∨ ∀ body, Action.read text ≠ .ok (.unknown body)) :
    ∃ ms name value, (NeedsRecord text store → milliseconds sources.clock = .ok ms) ∧
      Writes text ms store name value ∧
        (execute text store sources).store = Store.set store name value := by
  by_cases time : ShowsTime sources.clock
  · obtain ⟨ms, time⟩ := time
    obtain ⟨name, value, hwrites⟩ := exists_writes text ms store
    exact ⟨ms, name, value, fun _ => time, hwrites, (execute_of_writes time hwrites).2⟩
  · have known := timely.resolve_left time
    have needless : ¬ NeedsRecord text store := fun needs =>
      fault_execute_iff.mpr ⟨needs, time, fun body reading => absurd reading (known body)⟩ whole
    obtain ⟨name, value, hwrites⟩ := exists_writes text 0 store
    cases hwrites with
    | own reading assigned =>
      refine ⟨0, name, value, fun needs => absurd needs needless, .own reading assigned, ?_⟩
      rw [execute_of_assigned reading assigned]
    | unknown reading => exact absurd reading (known _)
    | failed failure => exact absurd failure.needsRecord needless

/-- At any time a statement does nothing to the store, or sets a variable to a value that arises. -/
theorem store_execute_cases (text : String) (store : Store) (sources : Sources) :
    (execute text store sources).store = store ∨
      ∃ name value, value.Arises ∧
        (execute text store sources).store = Store.set store name value := by
  by_cases whole : (execute text store sources).fault = none
  · by_cases timely :
        ShowsTime sources.clock ∨ ∀ body, Action.read text ≠ .ok (.unknown body)
    · obtain ⟨ms, name, value, -, hwrites, hstore⟩ := exists_writes_of_whole whole timely
      exact .inr ⟨name, value, hwrites.arises, hstore⟩
    · simp only [not_or, not_forall, not_not] at timely
      obtain ⟨late, body, reading⟩ := timely
      -- the statement got through, so it was recorded at the second reading
      have hlater : ShowsTime (sources.clock.after 1) := by
        by_contra again
        exact fault_execute_iff.mpr ⟨.unknown reading, late, fun _ _ => again⟩ whole
      obtain ⟨ms, time⟩ := hlater
      cases hlate : milliseconds sources.clock with
      | ok ms => exact absurd ⟨ms, hlate⟩ late
      | error e =>
        rw [execute_of_late reading hlate time]
        exact .inr ⟨_, _, .text _, rfl⟩
  · exact .inl (store_execute_of_fault whole)

end Writing

/-! ### What scripts keep -/

section Keeping

variable {P : Value → Prop} {store : Store}

theorem Store.allValues_empty (P : Value → Prop) : Store.AllValues P .empty := nofun

theorem Store.AllValues.set (h : Store.AllValues P store) (name : String) {value : Value}
    (hvalue : P value) : Store.AllValues P (Store.set store name value) := by
  intro other v hv
  rw [Store.get?_set] at hv
  split at hv
  · cases hv
    exact hvalue
  · exact h other v hv

/-- What holds of the values that arise is kept by a statement. -/
theorem allValues_execute (arising : ∀ v : Value, v.Arises → P v) (h : Store.AllValues P store)
    (text : String) (sources : Sources) :
    Store.AllValues P (execute text store sources).store := by
  rcases store_execute_cases text store sources with hstore | ⟨name, value, arises, hstore⟩
  · rwa [hstore]
  · rw [hstore]
    exact h.set name (arising value arises)

/-- What holds of the values that arise is kept by a script. -/
theorem allValues_executeScript (arising : ∀ v : Value, v.Arises → P v)
    (h : Store.AllValues P store) (script : String) (sources : Sources) :
    Store.AllValues P (executeScript script store sources).store := by
  refine List.foldlRecOn (motive := fun x : Execution => Store.AllValues P x.store)
    (scriptLines script) _ h fun x hx line _ => ?_
  by_cases hfault : x.fault = none
  · rw [next_of_running hfault]
    exact allValues_execute arising hx line x.sources
  · rwa [next_of_fault hfault]

end Keeping

end Colloquy
