import Colloquy.Proofs.Number.Exact
import Colloquy.Proofs.Script.Ordered
import Colloquy.Proofs.Script.Short
import Colloquy.Proofs.Script.StatementForms

/-!
# Numeric texts

A text is read as a number in two ways: a statement that sets a variable reads it as an integer or a
double, and a condition that finds it in a variable reads it as a double.  The two numbers are the
same unless the text is the numeral of an integer that no double holds; then the text counts as the
nearest double.

* `Numeral.readDecimal_text`: a numeral, read as a decimal literal;
* `Value.read_cases`: the two ways side by side;
* `Value.CountsBeside`, `Value.counts_beside`: what a text counts as, against what it denotes.
-/

namespace Colloquy

open Text

/-! ### Numerals as decimal literals -/

/-- A numeral is also a decimal literal, without a point. -/
theorem Numeral.readDecimal_text (n : Numeral) :
    DecimalLiteral.read? n.text = some ⟨n.literal.negative, n.literal.digits, [], 0⟩ := by
  have hnil : StopsAt isDecimal [] := stopsAt_nil
  have htake : n.digits.takeWhile isDecimal = n.digits := by
    simpa using takeWhile_append_of_stopsAt n.decimal hnil
  have hdrop : n.digits.dropWhile isDecimal = [] := by
    simpa using dropWhile_append_of_stopsAt n.decimal hnil
  obtain ⟨d, ds, hvalues⟩ : ∃ d ds, n.values = d :: ds := by
    refine List.exists_cons_of_ne_nil fun hnone => n.nonempty ?_
    rw [← List.length_eq_zero_iff, ← n.length_values, hnone, List.length_nil]
  have hdigits : digitValues? n.digits = some (d :: ds) := by
    rw [digitValues?_of_decimal n.decimal, ← hvalues, values]
  rw [DecimalLiteral.read?, splitSign_text, DecimalLiteral.readUnsigned?, htake, hdrop, hdigits,
    literal, hvalues]

namespace Value

variable {s : String} {v : Value}

/-- The text of an integer counts as the double nearest to it. -/
theorem place?_textNumber {n : Numeral} (htext : n.text = trim s.toList) :
    (textNumber s).place? = (Double.ofRat n.number).place? := by
  rw [textNumber, ← htext, n.readDecimal_text, ← n.exact_literal]
  exact DecimalLiteral.place?_value n.literal

/-- A text is the numeral of an integer and is read as this integer, or it is no numeral and counts
as the value that it is read as. -/
theorem read_cases (reading : read s = .ok v) :
    (∃ n : Numeral, n.text = trim s.toList ∧ v = .integer n.number) ∨
      (∀ n, v ≠ .integer n) ∧ textNumber s = v.number := by
  unfold read at reading
  dsimp only at reading
  split at reading
  · next l hread =>
    obtain ⟨n, htext, rfl⟩ := IntegerLiteral.read?_eq_some_iff.mp hread
    obtain ⟨k, hvalue, rfl⟩ := map_eq_ok_iff.mp reading
    obtain ⟨-, rfl⟩ := Numeral.value_eq_ok_iff.mp hvalue
    exact .inl ⟨n, htext, rfl⟩
  · split at reading
    · next l hread =>
      cases reading
      refine .inr ⟨?_, ?_⟩
      · rintro n ⟨⟩
      · rw [textNumber, hread, number_real]
    · cases reading
      refine .inr ⟨?_, rfl⟩
      rintro n ⟨⟩

/-- A text that is read as a number is read so without the blanks around it. -/
theorem read_strip (reading : read s = .ok v) (number : ∀ t, v ≠ .text t) :
    read (strip s) = .ok v := by
  rw [read] at reading ⊢
  rw [toList_strip, trim_trim]
  split at reading
  · next hread => exact reading
  · split at reading
    · exact reading
    · cases reading
      exact absurd rfl (number s)

/-! ### What texts count as -/

/-- A text counts as the number that it denotes exactly if this is no integer beyond the doubles. -/
theorem place?_textNumber_eq_iff (reading : read s = .ok v) :
    (textNumber s).place? = v.number.place? ↔ ∀ n, v = .integer n → IsExact n := by
  rcases read_cases reading with ⟨n, htext, rfl⟩ | ⟨none, hsame⟩
  · rw [place?_textNumber htext, number_integer, Number.place?_integer,
      Double.place?_ofRat_eq_iff]
    exact ⟨fun exact _ h => Value.integer.inj h ▸ exact, fun all => all _ rfl⟩
  · rw [hsame]
    exact ⟨fun _ n h => absurd h (none n), fun _ => rfl⟩

section Conditions

variable {x text : String} {store : Store} {w : Value} {p : Place} {r : Relation} {k : Int}

/-- The verdict on a variable that was just set. -/
theorem evaluateCondition_set (place : w.number.place? = some p) (asks : Condition.Asks x r k text)
    (sources : Sources) :
    evaluateCondition text (Store.set store x w) sources =
      (relationHolds r.mark (some (cmp p (.ofRat k))), sources) := by
  refine evaluateCondition_of_asks asks ?_ sources
  rw [Store.get?_set_self, numberOf_some, place]

/-- A variable that holds a short integer compares as one that holds another value just if the
other value is the same number: being equal to that integer tells other numbers from it. -/
theorem place?_eq_of_alike {n : Int} (identifier : Condition.isIdentifier x.toList = true)
    (short : Colloquy.IsShort n) (place : w.number.place? = some p)
    (alike : ∀ r k text sources, Condition.Asks x r k text →
      evaluateCondition text (Store.set store x w) sources =
        evaluateCondition text (Store.set store x (.integer n)) sources) :
    p = .ofRat n := by
  have asks := Condition.asks_toString identifier short .equal
  have hverdict := alike _ _ _ { chance := fun _ => .zero, clock := .steady .zero } asks
  rw [evaluateCondition_set place asks,
    evaluateCondition_set (w := .integer n) (Number.place?_integer n) asks] at hverdict
  have holds := (relationHolds_equal_iff (p := .ofRat n)).mpr rfl
  exact relationHolds_equal_iff.mp ((congrArg Prod.fst hverdict).trans holds)

end Conditions

/-- A statement that sets a variable to the text of a number stores this number. -/
theorem store_execute_assignment {a : Action.Assignment} {text : String}
    (reading : read s = .ok v) (number : ∀ t, v ≠ .text t) (htext : a.text = trim text.toList)
    (hphrase : a.phrase = trim s.toList) (store : Store) (sources : Sources) :
    (execute text store sources).store = Store.set store (Action.nameOf a.name) v := by
  have hvalue : Action.valueOf a.phrase = .ok v := by
    refine Action.valueOf_eq_ok_iff.mpr ⟨v, ?_, .other number⟩
    rw [hphrase]
    exact read_strip reading number
  have hread : Action.read text = .ok (.setVariable (Action.nameOf a.name) v) := by
    refine Action.read_eq_iff.mpr (.inl ⟨a, htext, ?_⟩)
    rw [hvalue]
    rfl
  rw [execute_of_assigned hread rfl]

/-- What a text counts as, against the value that it denotes. -/
structure CountsBeside (s : String) (v : Value) : Prop where
  /-- Both numbers have a place. -/
  placed : (∃ p, (textNumber s).place? = some p) ∧ ∃ p, v.number.place? = some p
  /-- A text that denotes no integer counts as what it denotes. -/
  same : (∀ n, v ≠ .integer n) → textNumber s = v.number
  /-- A text that denotes an integer counts as the double nearest to it. -/
  nearest : ∀ n, v = .integer n → (textNumber s).place? = (Double.ofRat n).place?
  /-- So the two numbers are equal unless the text denotes an integer that no double holds. -/
  equal_iff : (textNumber s).place? = v.number.place? ↔ ∀ n, v = .integer n → IsExact n
  /-- Just then a variable that holds the text compares with all integers as one that holds the
  value. -/
  alike_iff : ∀ x, Condition.isIdentifier x.toList = true → ∀ store,
    (∀ r k text sources, Condition.Asks x r k text →
      evaluateCondition text (Store.set store x (.text s)) sources =
        evaluateCondition text (Store.set store x v) sources) ↔ ∀ n, v = .integer n → IsExact n
  /-- A statement that sets a variable to the text stores the number that it denotes. -/
  stored : (∀ t, v ≠ .text t) → ∀ (a : Action.Assignment) text store sources,
    a.text = trim text.toList → a.phrase = trim s.toList →
      (execute text store sources).store = Store.set store (Action.nameOf a.name) v

/-- **A text counts as the number that it denotes**, in all conditions, unless it denotes an integer
that no double holds. -/
theorem counts_beside (reading : read s = .ok v) : CountsBeside s v := by
  have arises := arises_of_read reading
  obtain ⟨p, hp⟩ := Number.exists_place (textNumber_ne_nan s)
  obtain ⟨q, hq⟩ := Number.exists_place arises.isOrdered.number_ne_nan
  have hplaces : p = q ↔ ∀ n, v = .integer n → IsExact n := by
    rw [← place?_textNumber_eq_iff reading, hp, hq, Option.some.injEq]
  constructor
  case placed => exact ⟨⟨p, hp⟩, q, hq⟩
  case same =>
    intro none
    rcases read_cases reading with ⟨n, -, h⟩ | ⟨-, hsame⟩
    · exact absurd h (none _)
    · exact hsame
  case nearest =>
    intro n h
    rcases read_cases reading with ⟨n', htext, h'⟩ | ⟨none, -⟩
    · cases h'.symm.trans h
      exact place?_textNumber htext
    · exact absurd h (none n)
  case equal_iff => exact place?_textNumber_eq_iff reading
  case alike_iff =>
    intro x identifier store
    constructor
    · rintro alike n rfl
      cases hq
      have hsame := place?_eq_of_alike (w := .text s) identifier (arises.isShort n rfl) hp alike
      exact hplaces.mp hsame n rfl
    · intro exact r k text sources asks
      rw [evaluateCondition_set (w := .text s) hp asks, evaluateCondition_set hq asks,
        hplaces.mpr exact]
  case stored =>
    intro number a text store sources htext hphrase
    exact store_execute_assignment reading number htext hphrase store sources

/-- The least positive integer that no double holds: a variable that holds its text is not equal to
it. -/
theorem counts_beside_beyond_doubles :
    read "9007199254740993" = .ok (.integer 9007199254740993) ∧
      ¬ IsExact 9007199254740993 ∧
      (textNumber "9007199254740993").place? ≠ (Number.integer 9007199254740993).place? ∧
      ∀ store sources,
        evaluateCondition "gold == 9007199254740993"
          (Store.set store "gold" (.integer 9007199254740993)) sources = (true, sources) ∧
        evaluateCondition "gold == 9007199254740993"
          (Store.set store "gold" (.text "9007199254740993")) sources = (false, sources) := by
  have reading : read "9007199254740993" = .ok (.integer 9007199254740993) := by decide +kernel
  have inexact : ¬ IsExact 9007199254740993 := by
    rintro ⟨m, e, hm, -, h⟩
    cases e with
    | zero => omega
    | succ e =>
      rw [Nat.pow_succ, ← Nat.mul_assoc] at h
      omega
  have asks : Condition.Asks "gold" .equal 9007199254740993 "gold == 9007199254740993" :=
    Condition.asks_toString (by decide) (by decide) .equal
  have beside := counts_beside reading
  have apart := mt beside.equal_iff.mp fun exact => inexact (exact _ rfl)
  obtain ⟨⟨p, hp⟩, -⟩ := beside.placed
  refine ⟨reading, inexact, apart, fun store sources => ⟨?_, ?_⟩⟩
  · rw [evaluateCondition_set (w := .integer 9007199254740993) rfl asks,
      relationHolds_equal_iff.mpr rfl]
  · have hne : p ≠ .ofRat (9007199254740993 : Int) := by
      rintro rfl
      exact apart hp
    rw [evaluateCondition_set (w := .text "9007199254740993") hp asks,
      Bool.eq_false_iff.mpr (mt relationHolds_equal_iff.mp hne)]

end Value

end Colloquy
