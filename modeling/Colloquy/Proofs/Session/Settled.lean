import Colloquy.Proofs.Script.Comparison
import Colloquy.Proofs.Session.Alike

/-!
# Conditions that leave nothing to chance

Chance is asked about names of variables and about texts that are no condition.  A tree whose
conditional nodes hold comparisons and predicates never asks it: with other answers of chance every
session is the same, and none of the answers is taken.

* `Condition.IsSettled`, `Tree.IsSettled`: conditions that the store decides;
* `exists_verdict_of_isSettled`: their verdict, whatever the sources;
* `evaluateCondition_of_isUnknown`: unknown relations and functions hold nowhere;
* `Sources.withChance`: the same sources with other answers of chance;
* `Tree.IsSettled.apply_withChance`: an operation takes the same turn with them;
* `Tree.turns_settled`: so do operations one after the other.
-/

namespace Colloquy

/-! ### Settled conditions -/

/-- A text that is a comparison or a predicate, or that cannot be read. -/
inductive Condition.IsSettled (text : String) : Prop
  | comparison {name relation : String} {operand : Int}
      (reading : Condition.read text = .ok (.comparison name relation operand))
  | predicate {function argument : String}
      (reading : Condition.read text = .ok (.predicate function argument))
  | unread {e : NumberError} (reading : Condition.read text = .error e)

/-- A comparison with a relation that is none of the six, or a predicate with a function that is
none of the two. -/
inductive Condition.IsUnknown (text : String) : Prop
  | relation {name relation : String} {operand : Int}
      (reading : Condition.read text = .ok (.comparison name relation operand))
      (unknown : ∀ r : Relation, relation ≠ r.mark)
  | function {function argument : String}
      (reading : Condition.read text = .ok (.predicate function argument))
      (unknown : function ≠ "hasItem" ∧ function ≠ "questCompleted")

/-- A tree whose conditional nodes hold settled conditions. -/
def Tree.IsSettled (tree : Tree) : Prop :=
  ∀ node ∈ tree.nodes.toList, node.kind = .conditional → Condition.IsSettled node.body

/-- A settled condition has one verdict in a store, and the journal is told the same. -/
theorem exists_verdict_of_isSettled {text : String} (settled : Condition.IsSettled text)
    (store : Store) :
    ∃ verdict events, ∀ sources : Sources,
      evaluateCondition text store sources = (verdict, sources.noteAll events) := by
  cases settled with
  | comparison reading => exact ⟨_, [], fun sources => by simp [evaluateCondition, reading]; rfl⟩
  | predicate reading => exact ⟨_, [], fun sources => by simp [evaluateCondition, reading]; rfl⟩
  | unread reading => exact ⟨_, [_], fun sources => by rw [evaluateCondition, reading]; rfl⟩

/-- What is unknown is false, and nobody is asked. -/
theorem evaluateCondition_of_isUnknown {text : String} (unknown : Condition.IsUnknown text)
    (store : Store) (sources : Sources) :
    evaluateCondition text store sources = (false, sources) := by
  cases unknown with
  | relation reading unknown =>
    simp [evaluateCondition, reading, Condition.evaluate, relationHolds_of_unknown unknown]
  | function reading unknown =>
    simp [evaluateCondition, reading, Condition.evaluate, Condition.predicateHolds, unknown]

/-! ### Other answers of chance -/

/-- The same sources with other answers of chance. -/
def Sources.withChance (sources : Sources) (chance : Nat → Double) : Sources :=
  { sources with chance }

/-- The same execution with other answers of chance. -/
def Execution.withChance (x : Execution) (chance : Nat → Double) : Execution :=
  { x with sources := x.sources.withChance chance }

/-- The same turn with other answers of chance. -/
def Turn.withChance (turn : Turn) (chance : Nat → Double) : Turn :=
  { turn with sources := turn.sources.withChance chance }

section Sources

variable (sources : Sources) (chance : Nat → Double) (events : List Event)

@[simp] theorem clock_withChance : (sources.withChance chance).clock = sources.clock := rfl

@[simp] theorem noteAll_withChance :
    (sources.withChance chance).noteAll events = (sources.noteAll events).withChance chance := by
  induction events generalizing sources with
  | nil => rfl
  | cons e events ih => exact ih (sources.note e)

@[simp] theorem draws_noteAll : (sources.noteAll events).draws = sources.draws := by
  induction events generalizing sources with
  | nil => rfl
  | cons e events ih => exact ih (sources.note e)

end Sources

theorem leave_withChance (action : Action) (sources : Sources) (chance : Nat → Double) :
    action.leave (sources.withChance chance) = (action.leave sources).withChance chance := by
  cases action <;> rfl

/-! ### Scripts -/

section Script

variable (text script : String) (store : Store) (sources : Sources) (chance : Nat → Double)

theorem recordFailure_withChance (e : NumberError) :
    recordFailure text e store (sources.withChance chance) =
      (recordFailure text e store sources).withChance chance := by
  simp only [recordFailure, clock_withChance]
  split <;> rfl

theorem execute_withChance :
    execute text store (sources.withChance chance) =
      (execute text store sources).withChance chance := by
  unfold execute
  cases Action.read text with
  | error e => exact recordFailure_withChance text store sources chance e
  | ok action =>
    simp only [leave_withChance, clock_withChance]
    cases action.apply sources.clock store with
    | ok changed => rfl
    | error e => exact recordFailure_withChance text store _ chance e

theorem next_withChance (x : Execution) (line : String) :
    (x.withChance chance).next line = (x.next line).withChance chance := by
  unfold Execution.next
  cases h : x.fault with
  | some e => simp only [Execution.withChance, h]
  | none =>
    simp only [Execution.withChance, h]
    exact execute_withChance line x.store x.sources chance

theorem executeScript_withChance :
    executeScript script store (sources.withChance chance) =
      (executeScript script store sources).withChance chance := by
  change
    (scriptLines script).foldl Execution.next (Execution.withChance { store, sources } chance) =
      ((scriptLines script).foldl Execution.next { store, sources }).withChance chance
  exact List.foldl_hom (fun x : Execution => x.withChance chance) fun x line =>
    next_withChance chance x line

theorem draws_executeScript :
    (executeScript script store sources).sources.draws = sources.draws := by
  refine List.foldlRecOn (motive := fun x : Execution => x.sources.draws = sources.draws)
    (scriptLines script) _ rfl fun x hx line _ => ?_
  obtain ⟨journal, n, hsources⟩ := sources_execute line x.store x.sources
  by_cases hfault : x.fault = none
  · rw [next_of_running hfault, hsources, hx]
  · rw [next_of_fault hfault, hx]

end Script

/-! ### Turns -/

/-- A turn that chance has no part in: it takes no answer of the draws before it, and the other turn
is the one with other answers. -/
structure Turn.Unswayed (turn other : Turn) (chance : Nat → Double) (draws : Nat) : Prop where
  same : other = turn.withChance chance
  undrawn : turn.sources.draws = draws

section Turns

variable (s : Session) (tree : Tree) (node : Node) (text : Option String) (sources : Sources)
  (chance : Nat → Double)

theorem unswayed_turnTo :
    (s.turnTo tree node text sources).Unswayed (s.turnTo tree node text (sources.withChance chance))
      chance sources.draws where
  same := congrArg (Turn.mk _ · none) (noteAll_withChance sources.moment.2 chance _)
  undrawn := draws_noteAll _ _

theorem unswayed_stick (message : String) :
    (s.stick message sources).Unswayed (s.stick message (sources.withChance chance)) chance
      sources.draws :=
  ⟨rfl, rfl⟩

theorem unswayed_advanceLinear :
    (s.advanceLinear tree node sources).Unswayed
      (s.advanceLinear tree node (sources.withChance chance)) chance sources.draws := by
  unfold Session.advanceLinear
  split
  · exact unswayed_stick s sources chance _
  · split
    · rw [executeScript_withChance, ← draws_executeScript node.body s.store sources]
      generalize executeScript node.body s.store sources = x
      obtain ⟨store, rest, _ | e⟩ := x
      · exact unswayed_turnTo _ tree _ _ rest chance
      · exact ⟨rfl, rfl⟩
    · exact unswayed_turnTo s tree _ _ sources chance

theorem unswayed_advanceChoice (selection : Option Int) :
    (s.advanceChoice tree node selection sources).Unswayed
      (s.advanceChoice tree node selection (sources.withChance chance)) chance sources.draws := by
  unfold Session.advanceChoice
  dsimp only
  split
  · exact ⟨rfl, rfl⟩
  · split
    · exact ⟨rfl, rfl⟩
    · exact unswayed_turnTo s tree _ _ sources chance

theorem unswayed_advanceConditional (settled : Condition.IsSettled node.body) :
    (s.advanceConditional tree node sources).Unswayed
      (s.advanceConditional tree node (sources.withChance chance)) chance sources.draws := by
  obtain ⟨verdict, events, hverdict⟩ := exists_verdict_of_isSettled settled s.store
  simp only [Session.advanceConditional, hverdict, noteAll_withChance]
  rw [← draws_noteAll sources events]
  split
  · exact unswayed_stick s _ chance _
  · exact unswayed_turnTo s tree _ _ _ chance

variable {tree}

theorem unswayed_advance (settled : tree.IsSettled) (selection : Option Int) :
    (s.advance tree selection sources).Unswayed
      (s.advance tree selection (sources.withChance chance)) chance sources.draws := by
  unfold Session.advance
  split
  · exact ⟨rfl, rfl⟩
  · cases hnode : s.node? tree with
    | none => exact unswayed_stick s sources chance _
    | some node =>
      cases kind : node.kind with
      | ending => simp only [kind]; exact ⟨rfl, rfl⟩
      | npc | action => simp only [kind]; exact unswayed_advanceLinear s tree node sources chance
      | playerChoice =>
        simp only [kind]
        exact unswayed_advanceChoice s tree node sources chance selection
      | conditional =>
        have hmem : node ∈ tree.nodes.toList := Roster.mem_of_find? (Session.find?_of_node? hnode)
        simp only [kind]
        exact unswayed_advanceConditional s tree node sources chance (settled node hmem kind)

/-- Chance has no part in what an operation does, where all conditions are settled. -/
theorem unswayed_apply (settled : tree.IsSettled) (operation : Operation) :
    (operation.apply tree s sources).Unswayed
      (operation.apply tree s (sources.withChance chance)) chance sources.draws := by
  cases operation with
  | start | restart =>
    simp only [Operation.apply, Session.start]
    split
    · exact unswayed_turnTo {} tree _ none sources chance
    · exact ⟨rfl, rfl⟩
  | stop => exact ⟨rfl, rfl⟩
  | advance selection => exact unswayed_advance s sources chance settled selection
  | goto id =>
    simp only [Operation.apply, Session.goto]
    split
    · exact unswayed_turnTo s tree _ none sources chance
    · exact ⟨rfl, rfl⟩
  | setVariable name value => exact ⟨rfl, rfl⟩

end Turns

/-- Operations one after the other take the same turns with other answers, and take none of them. -/
theorem turns_withChance {tree : Tree} (settled : tree.IsSettled) (first : Turn)
    (chance : Nat → Double) (steps : List (Clock × Operation)) :
    tree.turns (first.withChance chance) steps =
        (tree.turns first steps).map (·.withChance chance) ∧
      ∀ turn ∈ tree.turns first steps, turn.sources.draws = first.sources.draws := by
  induction steps generalizing first with
  | nil => exact ⟨rfl, List.forall_mem_nil _⟩
  | cons step rest ih =>
    obtain ⟨clock, operation⟩ := step
    have hstep := unswayed_apply first.session { first.sources with clock } chance settled operation
    have hsame : operation.apply tree first.session
        { (first.withChance chance).sources with clock } = _ := hstep.same
    obtain ⟨hrest, hundrawn⟩ := ih (operation.apply tree first.session { first.sources with clock })
    constructor
    · simp only [Tree.turns, List.map_cons]
      rw [← hrest, ← hsame]
      rfl
    · refine List.forall_mem_cons.mpr ⟨hstep.undrawn, fun turn hturn => ?_⟩
      rw [hundrawn turn hturn, hstep.undrawn]

/-- **Chance has no part in the play of a tree whose conditions are settled.**  With other answers
of chance the same operations at the same times take the same turns, and none of the answers is
taken; jumps succeed or fail alike.  In particular what is unknown is decided without chance. -/
theorem Tree.turns_settled {tree : Tree} (settled : tree.IsSettled) (first : Turn)
    (chance : Nat → Double) (steps : List (Clock × Operation)) :
    tree.turns (first.withChance chance) steps =
        (tree.turns first steps).map (·.withChance chance) ∧
      (∀ turn ∈ tree.turns first steps, turn.sources.draws = first.sources.draws) ∧
      (∀ (s : Session) (id : String) (sources : Sources),
        (s.goto tree id (sources.withChance chance)).1 = (s.goto tree id sources).1) ∧
      ∀ (text : String) (store : Store) (sources : Sources), Condition.IsUnknown text →
        evaluateCondition text store sources = (false, sources) := by
  obtain ⟨hsame, hundrawn⟩ := turns_withChance settled first chance steps
  refine ⟨hsame, hundrawn, fun s id sources => ?_, fun text store sources unknown =>
    evaluateCondition_of_isUnknown unknown store sources⟩
  unfold Session.goto
  split <;> rfl

theorem isSettled_gateTree : gateTree.IsSettled := by
  intro node hnode kind
  have hall : ∀ node ∈ gateTree.nodes.toList, node.kind = .conditional →
      node.body = "hasItem('key')" := by decide +kernel
  rw [hall node hnode kind]
  exact @Condition.IsSettled.predicate _ "hasItem" "key" (by decide +kernel)

/-- Whether the gate opens is not left to chance. -/
theorem turns_settled_at_gate :
    let clock : Clock := .steady .zero
    let low : Turn := { session := {}, sources := { chance := fun _ => .zero, clock } }
    let high : Nat → Double := fun _ => .ofRat (3 / 4)
    let steps : List (Clock × Operation) :=
      [.start, .advance none, .advance none, .goto "hall", .setVariable "key" (.flag true),
        .advance none, .advance none].map (clock, ·)
    gateTree.IsSettled ∧
      gateTree.turns (low.withChance high) steps =
        (gateTree.turns low steps).map (·.withChance high) ∧
      ∀ turn ∈ gateTree.turns low steps, turn.sources.draws = 0 := by
  intro clock low high steps
  obtain ⟨hsame, hundrawn, -⟩ := Tree.turns_settled isSettled_gateTree low high steps
  exact ⟨isSettled_gateTree, hsame, hundrawn⟩

end Colloquy
