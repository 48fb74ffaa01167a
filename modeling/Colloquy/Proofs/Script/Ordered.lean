import Colloquy.Proofs.Number.Place
import Colloquy.Proofs.Script.ConditionForms
import Colloquy.Proofs.Script.Comparison
import Colloquy.Proofs.Script.Health
import Colloquy.Proofs.Script.Values

/-!
# Ordered stores

Whatever scripts have done, every variable counts as a number that has a place among the rational
numbers and the two infinities.  So the six relations of conditions are those of an order: of being
below an integer, equal to it and above it just one is the case, the relations come in pairs of
opposites, and who is not above an integer is not above a greater one.

* `Scripted`: the stores that statements and scripts build;
* `Value.IsOrdered`, `Scripted.isOrdered`: no variable holds what is not a number;
* `Condition.Asks`, `Condition.asks_toString`: a condition that compares a variable with an integer;
* `evaluateCondition_of_asks`: its verdict is told by the place of the variable;
* `ComparesInOrder`, `Scripted.in_order`: all these conditions follow one order.
-/

namespace Colloquy

open Text

/-- The stores that statements and scripts build from the empty one.  Each meets sources of its own,
and what an execution has done stays done where it breaks off. -/
inductive Scripted : Store → Prop
  | empty : Scripted .empty
  | statement {store : Store} (text : String) (sources : Sources) (scripted : Scripted store) :
      Scripted (execute text store sources).store
  | script {store : Store} (script : String) (sources : Sources) (scripted : Scripted store) :
      Scripted (executeScript script store sources).store

/-- A value other than what is not a number. -/
def Value.IsOrdered (v : Value) : Prop := v ≠ .real .nan

/-! ### Values -/

section Values

variable {v : Value} {store : Store}

theorem Value.textNumber_ne_nan (s : String) : textNumber s ≠ .real .nan := by
  unfold textNumber
  split
  · next l _ => exact fun h => l.value_ne_nan (Number.real.inj h)
  · nofun

/-- A value counts as a number unless it is itself none. -/
theorem Value.IsOrdered.number_ne_nan (ordered : v.IsOrdered) : v.number ≠ .real .nan := by
  cases v with
  | text s => exact textNumber_ne_nan s
  | real x =>
    rintro ⟨⟩
    exact ordered rfl
  | integer | flag => nofun

theorem Value.IsHealth.isOrdered (health : v.IsHealth) : v.IsOrdered := by
  rintro rfl
  cases health

/-- The values that statements write are ordered. -/
theorem Value.Arises.isOrdered (arises : v.Arises) : v.IsOrdered := by
  cases arises with
  | text | flag | integer => nofun
  | decimal l => exact fun h => l.value_ne_nan (Value.real.inj h)
  | health h => exact (isHealth_clampHealth h).isOrdered

/-- No script puts what is not a number into a variable. -/
theorem Scripted.isOrdered (scripted : Scripted store) :
    Store.AllValues Value.IsOrdered store := by
  induction scripted with
  | empty => exact Store.allValues_empty _
  | statement text sources _ ih =>
    exact allValues_execute (fun _ arises => arises.isOrdered) ih text sources
  | script script sources _ ih =>
    exact allValues_executeScript (fun _ arises => arises.isOrdered) ih script sources

/-- Every variable has a place, also one that was never set. -/
theorem Scripted.exists_place (scripted : Scripted store) (x : String) :
    ∃ p, (Value.numberOf (Store.get? store x)).place? = some p := by
  cases hget : Store.get? store x with
  | none => exact ⟨_, rfl⟩
  | some v => exact Number.exists_place (scripted.isOrdered x v hget).number_ne_nan

end Values

/-! ### Relations between places -/

/-- The relation that holds where a relation does not. -/
def Relation.opposite : Relation → Relation
  | above => atMost
  | atLeast => below
  | below => atLeast
  | atMost => above
  | equal => unequal
  | unequal => equal

/-- The relations in which a number stands to all integers up to a certain one. -/
def Relation.IsUpward (r : Relation) : Prop := r = above ∨ r = atLeast

theorem relationHolds_opposite (r : Relation) (o : Ordering) :
    relationHolds r.opposite.mark (some o) = !relationHolds r.mark (some o) := by
  cases r <;> cases o <;> rfl

/-- Just one of the three strict relations goes with an order. -/
theorem count_relationHolds (o : Ordering) :
    [relationHolds Relation.below.mark (some o), relationHolds Relation.equal.mark (some o),
      relationHolds Relation.above.mark (some o)].count true = 1 := by
  cases o <;> rfl

section Places

variable {p a b : Place}

theorem relationHolds_above_iff :
    relationHolds Relation.above.mark (some (cmp p a)) = true ↔ a < p := by
  rw [← cmp_eq_gt_iff p a]
  cases cmp p a <;> decide

theorem relationHolds_atLeast_iff :
    relationHolds Relation.atLeast.mark (some (cmp p a)) = true ↔ a ≤ p := by
  rw [← not_lt, ← cmp_eq_lt_iff p a]
  cases cmp p a <;> decide

theorem relationHolds_equal_iff :
    relationHolds Relation.equal.mark (some (cmp p a)) = true ↔ p = a := by
  rw [← cmp_eq_eq_iff p a]
  cases cmp p a <;> decide

/-- What stands above a place, or at it, stands so to every place before. -/
theorem relationHolds_of_le {r : Relation} (upward : r.IsUpward) (hle : a ≤ b)
    (holds : relationHolds r.mark (some (cmp p b)) = true) :
    relationHolds r.mark (some (cmp p a)) = true := by
  rcases upward with rfl | rfl
  · rw [relationHolds_above_iff] at holds ⊢
    exact hle.trans_lt holds
  · rw [relationHolds_atLeast_iff] at holds ⊢
    exact hle.trans holds

end Places

/-! ### Conditions -/

/-- A text asks, as a condition, whether a variable stands in a relation to an integer.  The
integer may be written with any digits and zeros, and there may be blanks between the parts and
around them. -/
def Condition.Asks (x : String) (r : Relation) (n : Int) (text : String) : Prop :=
  ∃ c : Condition.Comparison, c.text = trim text.toList ∧ c.name = x.toList ∧
    c.relation = r.mark.toList ∧ c.operand.digits.length ≤ digitLimit ∧ c.operand.number = n

section Conditions

variable {x text : String} {r : Relation} {n : Int} {store : Store} {p : Place}

theorem Condition.Asks.read (asks : Asks x r n text) :
    Condition.read text = .ok (.comparison x r.mark n) := by
  obtain ⟨c, htext, hname, hrelation, short, rfl⟩ := asks
  have hvalue : c.operand.literal.value = .ok c.operand.number :=
    Numeral.value_eq_ok_iff.mpr ⟨short, rfl⟩
  refine Condition.read_eq_iff.mpr (.inr (.inl ⟨c, htext, ?_⟩))
  rw [hvalue, hname, hrelation, String.ofList_toList, String.ofList_toList]
  rfl

/-- Every variable with an identifier as its name can be compared with every integer that is not
too long. -/
theorem Condition.asks_toString (identifier : isIdentifier x.toList = true) (short : IsShort n)
    (r : Relation) : Asks x r n (x ++ " " ++ r.mark ++ " " ++ toString n) := by
  have blank : isAllBlank " " = true := by decide
  have hread := Condition.read_comparison identifier short blank blank r
  have hforms := Condition.read_eq_iff.mp hread
  rcases hforms with ⟨-, h⟩ | ⟨c, htext, h⟩ | ⟨p, -, h⟩ | ⟨-, h⟩
  · cases h
  · obtain ⟨k, hk, hparts⟩ := map_eq_ok_iff.mp h
    obtain ⟨hshort, rfl⟩ := Numeral.value_eq_ok_iff.mp hk
    injection hparts with hname hrelation hnumber
    refine ⟨c, htext, ?_, ?_, hshort, hnumber⟩
    · rw [← hname, String.toList_ofList]
    · rw [← hrelation, String.toList_ofList]
  · cases h
  · cases h

/-- The verdict is about the number that the variable counts as. -/
theorem Condition.Asks.evaluateCondition_eq (asks : Asks x r n text) (store : Store)
    (sources : Sources) :
    evaluateCondition text store sources =
      (relationHolds r.mark ((Value.numberOf (Store.get? store x)).compare? n), sources) := by
  rw [evaluateCondition, asks.read]
  rfl

/-- The place of a variable tells the verdicts of the conditions that compare it. -/
theorem evaluateCondition_of_asks (asks : Condition.Asks x r n text)
    (place : (Value.numberOf (Store.get? store x)).place? = some p) (sources : Sources) :
    evaluateCondition text store sources =
      (relationHolds r.mark (some (cmp p (.ofRat n))), sources) := by
  rw [asks.evaluateCondition_eq, Number.compare?_of_place place]

end Conditions

/-- The conditions that compare a variable with integers follow one order. -/
structure ComparesInOrder (store : Store) (x : String) (sources : Sources) : Prop where
  /-- The variable has a place among the rational numbers and the infinities, and the conditions ask
  how that place compares with an integer.  Chance is not asked. -/
  placed : ∃ p : Place, (Value.numberOf (Store.get? store x)).place? = some p ∧
    ∀ r n text, Condition.Asks x r n text →
      evaluateCondition text store sources =
        (relationHolds r.mark (some (cmp p (.ofRat n))), sources)
  /-- It is below an integer, equal to it or above it, and just one of these. -/
  one_of_three : ∀ n below equal above, Condition.Asks x .below n below →
    Condition.Asks x .equal n equal → Condition.Asks x .above n above →
      [(evaluateCondition below store sources).1, (evaluateCondition equal store sources).1,
        (evaluateCondition above store sources).1].count true = 1
  /-- A relation holds exactly if the opposite one does not. -/
  opposite : ∀ r n text text', Condition.Asks x r n text → Condition.Asks x r.opposite n text' →
    (evaluateCondition text' store sources).1 = !(evaluateCondition text store sources).1
  /-- As the integer grows, being above it, or above it or equal to it, does not come back. -/
  falling : ∀ r, r.IsUpward → ∀ m n text text', m ≤ n → Condition.Asks x r m text →
    Condition.Asks x r n text' → (evaluateCondition text' store sources).1 = true →
      (evaluateCondition text store sources).1 = true

/-- **Comparisons follow one order** in every store that scripts build: no variable holds, or counts
as, what is not a number, and the conditions about a variable are those of a place among the
rational numbers and the infinities. -/
theorem Scripted.in_order {store : Store} (scripted : Scripted store) :
    (∀ x v, Store.get? store x = some v → v ≠ .real .nan ∧ v.number ≠ .real .nan) ∧
      ∀ x, (Condition.isIdentifier x.toList = true → ∀ r n, IsShort n →
          Condition.Asks x r n (x ++ " " ++ r.mark ++ " " ++ toString n)) ∧
        ∀ sources, ComparesInOrder store x sources := by
  refine ⟨fun x v hv => ?_, fun x => ⟨fun identifier r n short => ?_, fun sources => ?_⟩⟩
  · have ordered := scripted.isOrdered x v hv
    exact ⟨ordered, ordered.number_ne_nan⟩
  · exact Condition.asks_toString identifier short r
  obtain ⟨p, place⟩ := scripted.exists_place x
  have verdict {r : Relation} {n : Int} {text : String} (asks : Condition.Asks x r n text) :
      (evaluateCondition text store sources).1 =
        relationHolds r.mark (some (cmp p (.ofRat n))) := by
    rw [evaluateCondition_of_asks asks place]
  constructor
  case placed =>
    exact ⟨p, place, fun r n text asks => evaluateCondition_of_asks asks place sources⟩
  case one_of_three =>
    intro n below equal above hbelow hequal habove
    rw [verdict hbelow, verdict hequal, verdict habove]
    exact count_relationHolds _
  case opposite =>
    intro r n text text' asks asks'
    rw [verdict asks, verdict asks']
    exact relationHolds_opposite r _
  case falling =>
    intro r upward m n text text' hle asks asks' holds
    rw [verdict asks'] at holds
    rw [verdict asks]
    exact relationHolds_of_le upward (Place.ofRat_le_ofInt hle) holds

/-- A store with twelve pieces of gold. -/
def purse : Store :=
  (execute "setVar gold 12" .empty { chance := fun _ => .zero, clock := .steady .zero }).store

/-- Twelve is above seven, and neither below nor equal to it. -/
theorem in_order_of_purse :
    Scripted purse ∧ Store.get? purse "gold" = some (.integer 12) ∧
      Condition.isIdentifier "gold".toList = true ∧ IsShort 7 ∧
        ∀ sources, evaluateCondition "gold > 7" purse sources = (true, sources) ∧
          (evaluateCondition "gold <= 7" purse sources).1 = false ∧
          [(evaluateCondition "gold < 7" purse sources).1,
            (evaluateCondition "gold == 7" purse sources).1,
            (evaluateCondition "gold > 7" purse sources).1].count true = 1 := by
  have scripted : Scripted purse := .statement _ _ .empty
  have identifier : Condition.isIdentifier "gold".toList = true := by decide
  have short : IsShort 7 := by decide
  have held : Store.get? purse "gold" = some (.integer 12) := by decide +kernel
  obtain ⟨-, order⟩ := scripted.in_order
  obtain ⟨asks, compares⟩ := order "gold"
  have below : Condition.Asks "gold" .below 7 "gold < 7" := asks identifier .below 7 short
  have equal : Condition.Asks "gold" .equal 7 "gold == 7" := asks identifier .equal 7 short
  have above : Condition.Asks "gold" .above 7 "gold > 7" := asks identifier .above 7 short
  have atMost : Condition.Asks "gold" .atMost 7 "gold <= 7" := asks identifier .atMost 7 short
  refine ⟨scripted, held, identifier, short, fun sources => ?_⟩
  obtain ⟨p, place, verdict⟩ := (compares sources).placed
  have far : Place.ofRat (7 : Int) < p := by
    rw [held] at place
    obtain rfl : Place.ofRat (12 : Int) = p := Option.some.inj place
    exact Place.strictMono_ofRat (by norm_num)
  have holds : evaluateCondition "gold > 7" purse sources = (true, sources) := by
    rw [verdict .above 7 _ above, relationHolds_above_iff.mpr far]
  refine ⟨holds, ?_, (compares sources).one_of_three 7 _ _ _ below equal above⟩
  rw [(compares sources).opposite .above 7 _ _ above atMost, holds]
  rfl

end Colloquy
