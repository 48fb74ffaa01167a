import Mathlib.Algebra.Order.BigOperators.Group.List
import Mathlib.Algebra.Order.Ring.Rat
import Colloquy.Proofs.Roster
import Colloquy.Proofs.Script.Comparison
import Colloquy.Proofs.Script.Outcome
import Colloquy.Proofs.Success

/-!
# Health

A statement that changes the health leaves it between its bounds, whatever the variable held before,
or leaves it as it was.  Where the health counts as an integer the change is exact, and changes in
one direction add up: between the bounds it does not matter how they are split.

* `Value.IsHealth`, `isHealth_clampHealth`: a health between its bounds;
* `HealthCounts`, `currentHealth_eq_integer_iff`: the integer that a health counts as;
* `HealthRefuses`: the change is beyond all doubles and the health is one;
* `AdjustsHealth`, `adjustsHealth`: what one statement does;
* `executeLines_health`: what changes in one direction add up to;
* `health_kept`: both, in every store.
-/

namespace Colloquy

open Text

/-! ### Bounds -/

/-- A health between its bounds; a bound itself is an integer. -/
inductive Value.IsHealth : Value → Prop
  | integer {n : Int} (least : 0 ≤ n) (greatest : n ≤ 100) : IsHealth (.integer n)
  | real {negative : Bool} {rank : Fin 0x7FF0000000000000}
      (least : 0 < Double.signed negative rank) (greatest : Double.signed negative rank < 100) :
      IsHealth (.real (.finite negative rank))

/-- The health that an integer is clamped to. -/
def clamped (n : Int) : Int := max 0 (min 100 n)

theorem clampHealth_integer (n : Int) : clampHealth (.integer n) = .integer (clamped n) := by
  unfold clampHealth leastHealth greatestHealth clamped
  simp only [Number.compare?_integer, Option.some.injEq, Int.compare_eq_lt]
  split <;> simp only [Number.compare?_integer, Option.some.injEq, Int.compare_eq_gt] <;>
    split <;> rw [Number.integer.injEq] <;> omega

theorem Double.compareRat_eq_lt_iff {a b : Rat} : compareRat a b = .lt ↔ a < b := by
  unfold compareRat
  split
  · next less => exact ⟨fun _ => less, fun _ => rfl⟩
  · next notLess => split <;> exact ⟨nofun, fun less => absurd less notLess⟩

theorem Double.compareRat_eq_gt_iff {a b : Rat} : compareRat a b = .gt ↔ b < a := by
  unfold compareRat
  split
  · next less => exact ⟨nofun, fun greater => absurd greater less.asymm⟩
  · next notLess =>
    split
    · next same => exact ⟨nofun, fun greater => absurd same greater.ne'⟩
    · next other =>
      exact ⟨fun _ => lt_of_le_of_ne (not_lt.mp notLess) (Ne.symm other), fun _ => rfl⟩

/-- What lies strictly between the bounds is a health. -/
theorem isHealth_of_between {h : Number} (below : h.compare? 100 = some .lt)
    (above : h.compare? 0 = some .gt) : (Value.ofNumber h).IsHealth := by
  cases h with
  | integer n =>
    simp only [Number.compare?_integer, Option.some.injEq, Int.compare_eq_lt] at below
    simp only [Number.compare?_integer, Option.some.injEq, Int.compare_eq_gt] at above
    exact .integer above.le below.le
  | real x =>
    cases x with
    | finite negative rank =>
      simp only [Number.compare?, Double.compare?, Option.some.injEq] at below above
      have least := Double.compareRat_eq_gt_iff.mp above
      have greatest := Double.compareRat_eq_lt_iff.mp below
      exact .real (by exact_mod_cast least) (by exact_mod_cast greatest)
    | infinity negative =>
      cases negative with
      | false => cases below
      | true => cases above
    | nan => cases below

/-- Clamping leaves a health, from whatever number. -/
theorem isHealth_clampHealth (h : Number) : (Value.ofNumber (clampHealth h)).IsHealth := by
  unfold clampHealth leastHealth greatestHealth
  by_cases below : h.compare? 100 = some .lt
  · rw [if_pos below]
    dsimp only
    split
    · next above => exact isHealth_of_between below above
    · exact .integer (by decide) (by decide)
  · rw [if_neg below]
    exact .integer (by decide) (by decide)

/-! ### Integers that count -/

/-- The integer that a health counts as: the greatest health where it was never set, and none where
it was set to a text that is no number. -/
inductive HealthCounts : Option Value → Int → Prop
  | absent : HealthCounts none 100
  | integer (n : Int) : HealthCounts (some (.integer n)) n
  | flag (b : Bool) : HealthCounts (some (.flag b)) (if b then 1 else 0)
  | text {s : String} (other : DecimalLiteral.read? (trim s.toList) = none) :
      HealthCounts (some (.text s)) 0

variable {text : String} {store : Store} {sources : Sources} {delta h : Int}

theorem currentHealth_eq_integer_iff :
    currentHealth store = .integer h ↔ HealthCounts (Store.get? store healthVariable) h := by
  unfold currentHealth
  generalize Store.get? store healthVariable = held
  constructor
  · intro current
    cases held with
    | none =>
      cases current
      exact .absent
    | some v =>
      cases v with
      | integer | flag =>
        cases current
        constructor
      | real => cases current
      | text s =>
        dsimp only [Value.number, Value.textNumber] at current
        split at current
        · cases current
        · next other =>
          cases current
          exact .text other
  · intro counts
    cases counts with
    | absent | integer | flag => rfl
    | text other => simp only [Value.number, Value.textNumber, other]

/-- The health is a double, and it is to be changed by an integer beyond all doubles. -/
def HealthRefuses (store : Store) (delta : Int) : Prop :=
  (∃ x, currentHealth store = .real x) ∧ Double.ofInt? delta = none

/-- A health that refuses a change has a variable, whose name is not free. -/
theorem HealthRefuses.ne_of_isFirstFree (refused : HealthRefuses store delta) {base name : String}
    (free : IsFirstFree store base name) : name ≠ healthVariable := by
  rintro rfl
  obtain ⟨⟨x, current⟩, -⟩ := refused
  rw [currentHealth, free.get?_eq_none] at current
  cases current

/-! ### One change -/

/-- A statement that changes the health by a written integer. -/
theorem Action.read_modifyHealth (short : IsShort delta) :
    Action.read ("modifyHealth " ++ toString delta) = .ok (.modifyHealth delta) := by
  have htext : ("modifyHealth " ++ toString delta).toList =
      "modifyHealth".toList ++ ([' '] ++ (toString delta).toList) := by
    simp
  have htrim : trim ("modifyHealth".toList ++ ([' '] ++ (toString delta).toList)) =
      "modifyHealth".toList ++ ([' '] ++ (toString delta).toList) := by
    have hstart : StopsAt isBlank
        (("modifyHealth".toList ++ [' ']) ++ (toString delta).toList) := by
      rintro c hc
      cases hc
      decide
    simpa only [List.append_assoc] using trim_append_toString hstart
  have spells : Spells "modifyhealth" "modifyHealth".toList := by
    simp only [Spells]
    decide
  have blank : IsGap [' '] := ⟨by simp, by simp⟩
  obtain ⟨l, hread, hvalue⟩ := IntegerLiteral.read?_toString short
  rw [read, htext, htrim, readTrimmed_health spells blank
    (fun c hc => isBlank_of_mem_toString (List.mem_of_head? hc)) hread, hvalue]
  rfl

theorem isHealth_of_adjustHealth {after : Number}
    (adjusted : adjustHealth store delta = .ok after) : (Value.ofNumber after).IsHealth := by
  obtain ⟨sum, -, rfl⟩ := map_eq_ok_iff.mp adjusted
  exact isHealth_clampHealth sum

theorem adjustHealth_of_counts (counts : HealthCounts (Store.get? store healthVariable) h) :
    adjustHealth store delta = .ok (.integer (clamped (h + delta))) := by
  rw [adjustHealth, currentHealth_eq_integer_iff.mpr counts, Number.add_integer, Except.map,
    clampHealth_integer]

/-- What a statement that changes the health does. -/
structure AdjustsHealth (text : String) (delta : Int) (store : Store) (sources : Sources) :
    Prop where
  /-- It leaves a health between the bounds and changes nothing else. -/
  changed : ¬ HealthRefuses store delta →
    ∃ v : Value, v.IsHealth ∧
      execute text store sources = { store := Store.set store healthVariable v, sources }
  /-- An integer is changed exactly. -/
  counted : ∀ h, HealthCounts (Store.get? store healthVariable) h →
    execute text store sources =
      { store := Store.set store healthVariable (.integer (clamped (h + delta))), sources }
  /-- A change that is refused is recorded as an error, and the health stays as it was. -/
  recorded : HealthRefuses store delta → ∀ ms, milliseconds sources.clock = .ok ms →
    ∃ name, IsFirstFree store ("error_" ++ toString ms) name ∧
      (execute text store sources).fault = none ∧
      (execute text store sources).store =
        Store.set store name
          (.text (strip text ++ ": " ++ NumberError.tooLargeForDouble.message)) ∧
      Store.get? (execute text store sources).store healthVariable =
        Store.get? store healthVariable
  /-- At no time it cannot be recorded, and the execution breaks off with all as it was. -/
  broken : HealthRefuses store delta → ¬ ShowsTime sources.clock →
    (execute text store sources).fault ≠ none ∧ (execute text store sources).store = store

section

variable (reading : Action.read text = .ok (.modifyHealth delta))
include reading

theorem execute_of_adjustHealth {after : Number} (adjusted : adjustHealth store delta = .ok after) :
    execute text store sources =
      { store := Store.set store healthVariable (.ofNumber after), sources } := by
  have assigned : (Action.modifyHealth delta).assigned? store =
      some (healthVariable, .ofNumber after) := by
    rw [Action.assigned?, adjusted]
    rfl
  exact execute_of_assigned reading assigned

theorem execute_of_counts (counts : HealthCounts (Store.get? store healthVariable) h) :
    execute text store sources =
      { store := Store.set store healthVariable (.integer (clamped (h + delta))), sources } :=
  execute_of_adjustHealth reading (adjustHealth_of_counts counts)

theorem adjustsHealth (store : Store) (sources : Sources) :
    AdjustsHealth text delta store sources where
  changed accepted := by
    cases adjusted : adjustHealth store delta with
    | ok after =>
      exact ⟨_, isHealth_of_adjustHealth adjusted, execute_of_adjustHealth reading adjusted⟩
    | error e => exact absurd (adjustHealth_eq_error_iff.mp adjusted).2 accepted
  counted h counts := execute_of_counts reading counts
  recorded refused ms time := by
    have free := isFirstFree_firstFree store ("error_" ++ toString ms)
    have other := refused.ne_of_isFirstFree free
    obtain ⟨⟨x, current⟩, beyond⟩ := refused
    have hexecute := execute_of_failure time (.health reading current beyond)
    refine ⟨_, free, by rw [hexecute], by rw [hexecute], ?_⟩
    rw [hexecute, Store.get?_set_of_ne _ _ other]
  broken refused noTime := by
    have failure := adjustHealth_eq_error_iff.mpr ⟨rfl, refused⟩
    have fault : (execute text store sources).fault ≠ none :=
      fault_execute_iff.mpr
        ⟨.overflow reading failure, noTime, fun _ h => nomatch reading.symm.trans h⟩
    exact ⟨fault, store_execute_of_fault fault⟩

end

/-! ### Changes in one direction -/

/-- Statements that change the health, with what they change it by. -/
def ReadAsChanges (lines : List String) (deltas : List Int) : Prop :=
  List.Forall₂ (fun line delta => Action.read line = .ok (.modifyHealth delta)) lines deltas

/-- Integers of which none goes against the others. -/
def SameSign (deltas : List Int) : Prop := (∀ d ∈ deltas, 0 ≤ d) ∨ ∀ d ∈ deltas, d ≤ 0

/-- Clamping between two changes in one direction makes no difference. -/
theorem clamped_clamped_add {a b : Int} (least : 0 ≤ h) (greatest : h ≤ 100)
    (same : 0 ≤ a ∧ 0 ≤ b ∨ a ≤ 0 ∧ b ≤ 0) :
    clamped (clamped (h + a) + b) = clamped (h + (a + b)) := by
  unfold clamped
  omega

theorem SameSign.cons {d : Int} {deltas : List Int} (same : SameSign (d :: deltas)) :
    SameSign deltas ∧ (0 ≤ d ∧ 0 ≤ deltas.sum ∨ d ≤ 0 ∧ deltas.sum ≤ 0) := by
  rcases same with same | same
  · obtain ⟨hd, hdeltas⟩ := List.forall_mem_cons.mp same
    exact ⟨.inl hdeltas, .inl ⟨hd, List.sum_nonneg hdeltas⟩⟩
  · obtain ⟨hd, hdeltas⟩ := List.forall_mem_cons.mp same
    have hsum : deltas.sum ≤ 0 :=
      (List.sum_le_card_nsmul deltas 0 hdeltas).trans_eq (nsmul_zero _)
    exact ⟨.inr hdeltas, .inr ⟨hd, hsum⟩⟩

theorem bounds_clamped (n : Int) : 0 ≤ clamped n ∧ clamped n ≤ 100 := by
  unfold clamped
  omega

/-- Of two values of one variable the later one counts. -/
theorem Store.set_set (store : Store) (name : String) (v w : Value) :
    set (set store name v) name w = set store name w :=
  @Roster.put_put _ _ (name, v) (name, w) rfl store

/-- Changes of the health in one direction, one after the other, add up. -/
theorem executeLines_health {lines : List String} {deltas : List Int}
    (readings : ReadAsChanges lines deltas) (nonempty : deltas ≠ [])
    (same : SameSign deltas) (least : 0 ≤ h) (greatest : h ≤ 100)
    (counts : HealthCounts (Store.get? store healthVariable) h) (sources : Sources) :
    executeLines lines store sources =
      { store := Store.set store healthVariable (.integer (clamped (h + deltas.sum)))
        sources } := by
  -- each change leaves an integer between the bounds, from which the others go on
  induction readings generalizing store h with
  | nil => exact absurd rfl nonempty
  | @cons line d lines deltas reading readings ih =>
    obtain ⟨hdeltas, direction⟩ := same.cons
    have hstep : executeLines (line :: lines) store sources =
        executeLines lines (Store.set store healthVariable (.integer (clamped (h + d))))
          sources := by
      rw [executeLines, List.foldl_cons, next_of_running rfl, execute_of_counts reading counts,
        executeLines]
    rw [hstep, List.sum_cons]
    by_cases hlast : deltas = []
    · subst hlast
      cases readings
      rw [executeLines_nil, List.sum_nil, add_zero]
    · obtain ⟨hleast, hgreatest⟩ := bounds_clamped (h + d)
      have hcounts : HealthCounts
          (Store.get? (Store.set store healthVariable (.integer (clamped (h + d)))) healthVariable)
          (clamped (h + d)) := by
        rw [Store.get?_set_self]
        exact .integer _
      rw [ih hlast hdeltas hleast hgreatest hcounts, Store.set_set,
        clamped_clamped_add least greatest direction]

/-! ### The laws of health -/

/-- What statements that change the health do in a store. -/
structure KeepsHealth (store : Store) (sources : Sources) : Prop where
  adjusts : ∀ text delta, Action.read text = .ok (.modifyHealth delta) →
    AdjustsHealth text delta store sources
  /-- From between the bounds, changes in one direction leave what their sum would leave. -/
  adds_up : ∀ h, HealthCounts (Store.get? store healthVariable) h → 0 ≤ h → h ≤ 100 →
    ∀ lines deltas, ReadAsChanges lines deltas → deltas ≠ [] → SameSign deltas →
      executeLines lines store sources =
        { store := Store.set store healthVariable (.integer (clamped (h + deltas.sum))), sources }
  /-- So they may be split and put in another order. -/
  regroups : ∀ h, HealthCounts (Store.get? store healthVariable) h → 0 ≤ h → h ≤ 100 →
    ∀ lines deltas lines' deltas',
      ReadAsChanges lines deltas → ReadAsChanges lines' deltas' →
      deltas ≠ [] → deltas' ≠ [] → SameSign deltas → SameSign deltas' →
      deltas.sum = deltas'.sum →
        executeLines lines store sources = executeLines lines' store sources

/-- **Statements leave the health between its bounds or as it was**, exactly so where it counts as
an integer; and from between the bounds, changes in one direction add up. -/
theorem health_kept (store : Store) (sources : Sources) : KeepsHealth store sources where
  adjusts _ _ reading := adjustsHealth reading store sources
  adds_up _ counts least greatest _ _ readings nonempty same :=
    executeLines_health readings nonempty same least greatest counts sources
  regroups _ counts least greatest _ _ _ _ readings readings' nonempty nonempty' same same'
      sums := by
    rw [executeLines_health readings nonempty same least greatest counts,
      executeLines_health readings' nonempty' same' least greatest counts, sums]

/-- From the greatest health two blows leave nothing, and at the greatest time a change beyond all
doubles breaks off if the health is a fraction. -/
theorem health_kept_beyond_doubles :
    let sources : Sources :=
      { chance := fun _ => .zero, clock := .steady (.finite false 0x7FEFFFFFFFFFFFFF) }
    let beyond := "modifyHealth " ++ toString ((10 : Int) ^ 400)
    let fraction := Store.set .empty healthVariable (.real (.ofRat (501 / 2)))
    executeLines ["modifyHealth -30", "modifyHealth -80"] .empty sources =
        { store := Store.set .empty healthVariable (.integer 0), sources } ∧
      (execute beyond fraction sources).fault ≠ none ∧
      (execute beyond fraction sources).store = fraction := by
  intro sources beyond fraction
  have first : Action.read "modifyHealth -30" = .ok (.modifyHealth (-30)) := by decide +kernel
  have second : Action.read "modifyHealth -80" = .ok (.modifyHealth (-80)) := by decide +kernel
  have short : ∀ k < digitLimit, IsShort ((10 : Int) ^ k) := fun k hk => by
    have ten : Int.natAbs 10 = 10 := rfl
    rw [isShort_iff, Int.natAbs_pow, ten]
    exact Nat.pow_lt_pow_right (by decide) hk
  have current : currentHealth fraction = .real (.ofRat (501 / 2)) := by
    rw [currentHealth, Store.get?_set_self]
    rfl
  have refused : HealthRefuses fraction (10 ^ 400) := ⟨⟨_, current⟩, by decide +kernel⟩
  have noTime : ¬ ShowsTime sources.clock := by decide +kernel
  have adjusts := (health_kept fraction sources).adjusts _ _
    (Action.read_modifyHealth (short 400 (by decide)))
  refine ⟨?_, adjusts.broken refused noTime⟩
  exact (health_kept .empty sources).adds_up 100 .absent (by decide) (by decide) _ [-30, -80]
    (.cons first (.cons second .nil)) (by decide) (.inr (by decide))

end Colloquy
