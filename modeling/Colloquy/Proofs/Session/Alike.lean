import Colloquy.Proofs.Session.Standing
import Colloquy.Proofs.Tree.Pruned

/-!
# Play in trees that are alike

No session can tell trees that are alike from one another: every operation takes the same turn in
both, down to the journal.  In particular no session misses the dead connections of a tree.

* `Alike.arrival_eq`, `Alike.responses_eq`: what trees that are alike offer;
* `Alike.apply_eq`: an operation takes the same turn in both;
* `Tree.turns`: the turns of operations one after the other, while the clock goes on;
* `turns_pruned`: they are the same without the dead connections.
-/

namespace Colloquy

/-- A response as it is in another tree: only its connections may differ. -/
def Response.within (r : Response) (tree : Tree) (node : Node) : Response :=
  { r with connections := tree.outgoingFrom node.id r.choice.id }

/-- The turns of operations that are carried out one after the other, each with the readings of the
clock beside it. -/
def Tree.turns (tree : Tree) (before : Turn) : List (Clock × Operation) → List Turn
  | [] => []
  | (clock, operation) :: rest =>
    let turn := operation.apply tree before.session { before.sources with clock }
    turn :: tree.turns turn rest

namespace Tree

variable {a b tree : Tree} {node target : Node}

theorem find?_of_firstTarget? {connections : List Connection}
    (h : tree.firstTarget? connections = some target) : tree.find? target.id = some target := by
  obtain ⟨c, -, hc⟩ := firstTarget?_eq_some_iff.mp h
  rwa [id_of_find? hc]

/-! ### What trees that are alike offer -/

theorem Alike.startNode?_eq (h : a.Alike b) : a.startNode? = b.startNode? := by
  simp only [startNode?, find?_congr h.nodes, h.nodes, h.start]

theorem Alike.responses_eq (h : a.Alike b) (found : a.find? node.id = some node) :
    b.responses node = (a.responses node).map (·.within b node) := by
  unfold responses
  split
  · next kind =>
    refine List.ext_getElem (by simp) fun i hb ha => ?_
    have hi : i < node.choices.length := by simpa using hb
    have htarget := h.response node found kind _ (List.getElem_mem hi)
    simp only [List.getElem_map, List.getElem_mapIdx, Tree.response, Response.within, htarget]
  · rfl

/-- An arrival is the same in trees that are alike. -/
theorem Alike.arrival_eq (h : a.Alike b) (found : a.find? node.id = some node) :
    a.arrival node = b.arrival node := by
  cases kind : node.kind with
  | npc =>
    rw [a.arrival_linear (.inl kind), b.arrival_linear (.inl kind), h.line node found (.inl kind)]
  | action =>
    rw [a.arrival_linear (.inr kind), b.arrival_linear (.inr kind), h.line node found (.inr kind)]
  | conditional => rw [a.arrival_conditional kind, b.arrival_conditional kind]
  | ending => rw [a.arrival_ending kind, b.arrival_ending kind]
  | playerChoice =>
    have hany : (b.responses node).any Response.isEnabled =
        (a.responses node).any Response.isEnabled := by
      rw [h.responses_eq found, List.any_map]
      rfl
    simp only [arrival, kind, hany]

end Tree

namespace Session

variable {a b : Tree} {s : Session} {node : Node} {sources : Sources}

theorem selected?_map {α β : Type} (f : α → β) (items : List α) (selection : Option Int) :
    selected? (items.map f) selection = (selected? items selection).map f := by
  unfold selected?
  cases selection with
  | none => rfl
  | some index =>
    simp only [Option.bind_some]
    split
    · rw [List.getElem?_map]
    · rfl

theorem node?_eq_of_alike (h : a.Alike b) (s : Session) : s.node? a = s.node? b := by
  rw [node?, node?, Tree.find?_congr h.nodes]

/-! ### Turns in trees that are alike -/

theorem moveTo_eq_of_alike (h : a.Alike b) (found : a.find? node.id = some node)
    (text : Option String) (sources : Sources) :
    s.moveTo a node text sources = s.moveTo b node text sources := by
  simp only [moveTo, h.arrival_eq found]

theorem turnTo_eq_of_alike (h : a.Alike b) (found : a.find? node.id = some node)
    (text : Option String) (sources : Sources) :
    s.turnTo a node text sources = s.turnTo b node text sources := by
  simp only [turnTo, moveTo_eq_of_alike h found]

theorem start_eq_of_alike (h : a.Alike b) (sources : Sources) :
    start a sources = start b sources := by
  unfold start
  rw [← h.startNode?_eq]
  cases hstart : a.startNode? with
  | none => rfl
  | some node => exact moveTo_eq_of_alike h (Tree.find?_of_startNode? hstart) none sources

theorem advanceLinear_eq_of_alike (h : a.Alike b) (found : a.find? node.id = some node)
    (kind : node.kind = .npc ∨ node.kind = .action) :
    s.advanceLinear a node sources = s.advanceLinear b node sources := by
  have hline := h.line node found kind
  cases htarget : a.firstTarget? (a.outgoing node.id) with
  | none =>
    rw [htarget] at hline
    simp only [advanceLinear, htarget, ← hline]
  | some target =>
    have hfound := Tree.find?_of_firstTarget? htarget
    rw [htarget] at hline
    rw [advanceLinear_of_target htarget, advanceLinear_of_target hline.symm]
    dsimp only
    split
    · rfl
    · exact turnTo_eq_of_alike h hfound none _

theorem advanceChoice_eq_of_alike (h : a.Alike b) (found : a.find? node.id = some node)
    (kind : node.kind = .playerChoice) (selection : Option Int) :
    s.advanceChoice a node selection sources = s.advanceChoice b node selection sources := by
  unfold advanceChoice
  dsimp only
  rw [h.responses_eq found, selected?_map, List.length_map]
  cases hselected : selected? (a.responses node) selection with
  | none => rfl
  | some r =>
    cases htarget : r.target with
    | none => simp only [Option.map_some, Response.within, htarget]
    | some target =>
      obtain ⟨c, -, hc⟩ := Tree.passage_of_mem_responses kind (mem_of_selected? hselected) htarget
      have hfound : a.find? target.id = some target := by rwa [Tree.id_of_find? hc]
      simp only [Option.map_some, Response.within, htarget]
      exact turnTo_eq_of_alike h hfound _ _

theorem advanceConditional_eq_of_alike (h : a.Alike b) (found : a.find? node.id = some node)
    (kind : node.kind = .conditional) :
    s.advanceConditional a node sources = s.advanceConditional b node sources := by
  unfold advanceConditional
  dsimp only
  generalize evaluateCondition node.body s.store sources = decided
  rw [← h.branch node found kind decided.1]
  split
  · rfl
  · next target htarget =>
    exact turnTo_eq_of_alike h (Tree.find?_of_firstTarget? htarget) _ _

theorem advance_eq_of_alike (h : a.Alike b) (s : Session) (selection : Option Int)
    (sources : Sources) : s.advance a selection sources = s.advance b selection sources := by
  unfold advance
  rw [← node?_eq_of_alike h]
  split
  · rfl
  · cases hnode : s.node? a with
    | none => rfl
    | some node =>
      have found := find?_of_node? hnode
      cases kind : node.kind with
      | ending => simp only [kind]
      | npc => simp only [kind]; exact advanceLinear_eq_of_alike h found (.inl kind)
      | action => simp only [kind]; exact advanceLinear_eq_of_alike h found (.inr kind)
      | playerChoice => simp only [kind]; exact advanceChoice_eq_of_alike h found kind selection
      | conditional => simp only [kind]; exact advanceConditional_eq_of_alike h found kind

theorem goto_eq_of_alike (h : a.Alike b) (s : Session) (id : String) (sources : Sources) :
    s.goto a id sources = s.goto b id sources := by
  unfold goto
  rw [← Tree.find?_congr h.nodes]
  split
  · next node _ hnode _ =>
    have found : a.find? node.id = some node := by rwa [Tree.id_of_find? hnode]
    rw [moveTo_eq_of_alike h found]
  · rfl

end Session

/-- An operation takes the same turn in trees that are alike. -/
theorem Tree.Alike.apply_eq {a b : Tree} (h : a.Alike b) (operation : Operation) (s : Session)
    (sources : Sources) : operation.apply a s sources = operation.apply b s sources := by
  cases operation with
  | start | restart => simp only [Operation.apply, Session.start_eq_of_alike h]
  | stop => rfl
  | advance selection => exact Session.advance_eq_of_alike h s selection sources
  | goto id => simp only [Operation.apply, Session.goto_eq_of_alike h]
  | setVariable name value => rfl

/-- Operations take the same turns in trees that are alike. -/
theorem Tree.Alike.turns_eq {a b : Tree} (h : a.Alike b) (before : Turn)
    (steps : List (Clock × Operation)) : a.turns before steps = b.turns before steps := by
  induction steps generalizing before with
  | nil => rfl
  | cons step rest ih => simp only [turns, h.apply_eq, ih]

/-- The responses that a session is offered have the same choices and targets in trees that are
alike. -/
theorem Tree.Alike.offers_eq {a b : Tree} (h : a.Alike b) (s : Session) :
    (s.responses a).map (fun r => (r.choice, r.target, r.isEnabled)) =
      (s.responses b).map fun r => (r.choice, r.target, r.isEnabled) := by
  unfold Session.responses
  rw [← Session.node?_eq_of_alike h]
  split
  · next hnode =>
    rw [h.responses_eq (Session.find?_of_node? hnode), List.map_map]
    rfl
  · rfl

/-- **No session misses the dead connections of a tree.**  Without them the advice tells no
connection dead, all operations take the same turns, with the same sessions and the same draws, and
every session is offered the same responses with the same targets. -/
theorem Tree.turns_pruned (tree : Tree) (first : Turn) (steps : List (Clock × Operation)) :
    tree.pruned.connectionIssues.filter Issue.isDetachment = [] ∧
      tree.pruned.turns first steps = tree.turns first steps ∧
      ∀ s : Session, (s.responses tree.pruned).map (fun r => (r.choice, r.target, r.isEnabled)) =
        (s.responses tree).map fun r => (r.choice, r.target, r.isEnabled) := by
  have halike := alike_pruned tree
  exact ⟨connectionIssues_pruned tree, (halike.turns_eq first steps).symm,
    fun s => (halike.offers_eq s).symm⟩

-- A way to a cellar that does not exist and a third branch of the gate are dead.
example :
    let astray : List Connection :=
      [{ id := "down", source := "hall", target := "cellar" },
        { id := "back", source := "gate", target := "hall", sourceHandle := some "maybe" }]
    ({ gateTree with connections := astray ++ gateTree.connections } : Tree).pruned.connections =
      gateTree.connections := by
  decide +kernel

end Colloquy
