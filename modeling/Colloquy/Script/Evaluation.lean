import Colloquy.Script.Condition
import Colloquy.Sources
import Colloquy.Store

/-!
# Evaluation of conditions

A condition is true or false in a store.  Where the store does not decide it, since it is unresolved
or names a variable that was never set, chance does.

* `relationHolds`: the six relations;
* `Condition.simulate`: the verdict of chance;
* `Condition.evaluate`: the verdict of the store or of chance;
* `evaluateCondition`: the same for a text, false where the text cannot be read.
-/

namespace Colloquy

/-- Whether a relation holds between two numbers that compare as given; what is not a number is
unequal to every number and stands in no other relation to it.  A run of characters that is none of
the six relations holds nowhere. -/
def relationHolds (relation : String) (order : Option Ordering) : Bool :=
  match relation with
  | ">" => order == some .gt
  | ">=" => order == some .gt || order == some .eq
  | "<" => order == some .lt
  | "<=" => order == some .lt || order == some .eq
  | "==" => order == some .eq
  | "!=" => order != some .eq
  | _ => false

namespace Condition

/-- The event that a text was decided by chance. -/
def simulated (text : String) (result : Bool) : Event :=
  if mentionsGameState text then .gameStateSimulated text result
  else .conditionSimulated text result

/-- Let chance decide about a text. -/
def simulate (text : String) (sources : Sources) : Bool × Sources :=
  let (result, drawn) := sources.draw
  (result, drawn.note (simulated text result))

/-- The verdict on a predicate; a function other than the two known ones is false. -/
def predicateHolds (store : Store) (function argument : String) : Bool :=
  if function = "hasItem" then Store.hasItem store argument
  else if function = "questCompleted" then Store.questState store argument == some questCompleted
  else false

/-- The verdict of the store or, where it has none, of chance. -/
def evaluate (condition : Condition) (store : Store) (sources : Sources) : Bool × Sources :=
  match condition with
  | .variable name =>
    match Store.get? store name with
    | some v => (v.truth, sources)
    | none => simulate name sources
  | .comparison name relation operand =>
    (relationHolds relation ((Value.numberOf (Store.get? store name)).compare? operand), sources)
  | .predicate function argument => (predicateHolds store function argument, sources)
  | .unresolved text => simulate text sources

@[simp] theorem draws_simulate (text : String) (sources : Sources) :
    (simulate text sources).2.draws = sources.draws + 1 := rfl

end Condition

/-- The verdict on the condition that a text spells; it is false where the text cannot be read. -/
def evaluateCondition (text : String) (store : Store) (sources : Sources) : Bool × Sources :=
  match Condition.read text with
  | .ok condition => condition.evaluate store sources
  | .error e => (false, sources.note (.conditionFailed text e))

@[simp] theorem clock_evaluate (condition : Condition) (store : Store) (sources : Sources) :
    (condition.evaluate store sources).2.clock = sources.clock := by
  unfold Condition.evaluate
  split
  · split <;> rfl
  all_goals rfl

@[simp] theorem clock_evaluateCondition (text : String) (store : Store) (sources : Sources) :
    (evaluateCondition text store sources).2.clock = sources.clock := by
  unfold evaluateCondition
  split <;> simp

end Colloquy
