import Colloquy.Proofs.Session.Onward

/-!
# Runs

What can be reached by playing a tree that nobody edits.  Every operation may meet sources of its
own, so chance and the clock are free at each step.

* `Reachable`: the sessions that operations lead to;
* `Origin`, `Operation.origins`: how each entry came into a history;
* `Played`: a session with the origins of its history;
* `Session.AtLast`: a session is where its history ends, at every point of a run;
* `Tree.play`: the run of given operations.
-/

namespace Colloquy

/-- The sessions that operations lead to, from one that is not started. -/
inductive Reachable (tree : Tree) : Session → Prop
  | fresh : Reachable tree {}
  | next {s : Session} (operation : Operation) (sources : Sources) (reached : Reachable tree s) :
      Reachable tree (operation.apply tree s sources).session

/-- How an entry came into a history. -/
inductive Origin
  /-- The conversation started there. -/
  | started
  /-- The session went on to it. -/
  | advanced
  /-- The session jumped to it. -/
  | jumped
  deriving DecidableEq

/-- The origins of a history after an operation, from those before it: what an operation writes
behind the old entries has come by the operation. -/
def Operation.origins (operation : Operation) (before after : Session) (origins : List Origin) :
    List Origin :=
  let written := after.history.length - before.history.length
  match operation with
  | .start | .restart => List.replicate after.history.length .started
  | .stop => []
  | .advance _ => origins ++ List.replicate written .advanced
  | .goto _ => origins ++ List.replicate written .jumped
  | .setVariable _ _ => origins

/-- The sessions that operations lead to, each with the origins of the entries of its history. -/
inductive Played (tree : Tree) : Session → List Origin → Prop
  | fresh : Played tree {} []
  | next {s : Session} {origins : List Origin} (operation : Operation) (sources : Sources)
      (played : Played tree s origins) :
      Played tree (operation.apply tree s sources).session
        (operation.origins s (operation.apply tree s sources).session origins)

theorem Played.reachable {tree : Tree} {s : Session} {origins : List Origin}
    (h : Played tree s origins) : Reachable tree s := by
  induction h with
  | fresh => exact .fresh
  | next operation sources _ ih => exact .next operation sources ih

theorem Reachable.played {tree : Tree} {s : Session} (h : Reachable tree s) :
    ∃ origins, Played tree s origins := by
  induction h with
  | fresh => exact ⟨[], .fresh⟩
  | next operation sources _ ih =>
    obtain ⟨origins, hplayed⟩ := ih
    exact ⟨_, .next operation sources hplayed⟩

/-! ### Where a session is -/

/-- A session is at the node of the last entry of its history, if there is any. -/
def Session.AtLast (s : Session) : Prop := s.current = s.history.getLast?.map HistoryEntry.nodeId

section

variable {tree : Tree} {s s' : Session} {node : Node}

theorem atLast_moveTo (s : Session) (tree : Tree) (node : Node) (text : Option String)
    (sources : Sources) : (s.moveTo tree node text sources).1.AtLast := by
  simp [Session.AtLast]

theorem atLast_start (tree : Tree) (sources : Sources) :
    (Session.start tree sources).1.AtLast := by
  unfold Session.start
  split
  · exact atLast_moveTo _ _ _ _ _
  · rfl

theorem Session.AtLast.advance (h : s.AtLast) (tree : Tree) (selection : Option Int)
    (sources : Sources) : (s.advance tree selection sources).session.AtLast := by
  have honward := onward_advance tree s selection sources
  generalize s.advance tree selection sources = turn at honward ⊢
  cases honward with
  | moved => exact atLast_moveTo _ _ _ _ _
  | _ => exact h

/-- A session that is somewhere has a last entry there. -/
theorem Session.AtLast.exists_last (h : s.AtLast) {id : String} (here : s.current = some id) :
    ∃ before d, s.history = before ++ [d] ∧ d.nodeId = id := by
  rw [h, Option.map_eq_some_iff] at here
  obtain ⟨d, hlast, hid⟩ := here
  obtain ⟨before, hhistory⟩ := List.getLast?_eq_some_iff.mp hlast
  exact ⟨before, d, hhistory, hid⟩

/-- The last entry of a session at a node is for that node. -/
theorem Session.AtLast.exists_last_at (h : s.AtLast) (here : s.node? tree = some node) :
    ∃ before d, s.history = before ++ [d] ∧ d.nodeId = node.id ∧
      tree.find? d.nodeId = some node := by
  obtain ⟨id, hcurrent, hnode⟩ := Option.bind_eq_some_iff.mp here
  obtain ⟨before, d, hhistory, hd⟩ := h.exists_last hcurrent
  rw [← hd] at hnode
  exact ⟨before, d, hhistory, (Tree.id_of_find? hnode).symm, hnode⟩

end

/-! ### Runs of given operations -/

/-- The session after operations that all meet the same sources, with the origins of its history. -/
def Tree.play (tree : Tree) (sources : Sources) (operations : List Operation) :
    Session × List Origin :=
  operations.foldl
    (fun run operation =>
      let after := (operation.apply tree run.1 sources).session
      (after, operation.origins run.1 after run.2))
    ({}, [])

theorem played_play (tree : Tree) (sources : Sources) (operations : List Operation) :
    Played tree (tree.play sources operations).1 (tree.play sources operations).2 := by
  refine List.foldlRecOn (motive := fun run : Session × List Origin => Played tree run.1 run.2)
    operations _ ?_ ?_
  · exact .fresh
  · intro run played operation _
    exact .next operation sources played

/-! ### A gate -/

/-- A hall with a gate to a garden, open to those who hold the key. -/
def gateTree : Tree where
  id := "gate"
  name := "Gate"
  nodes := .ofList
    [{ id := "hall", kind := .npc, title := "Hall", content := some "A gate bars the way." },
      { id := "gate", kind := .conditional, title := "Gate", content := some "hasItem('key')" },
      { id := "garden", kind := .ending, title := "Garden" }]
  connections :=
    [{ id := "in", source := "hall", target := "gate" },
      { id := "out", source := "gate", target := "garden", sourceHandle := some "true" }]
  startNodeId := some "hall"

/-- The run of operations at the gate while nothing happens outside. -/
def atGate (operations : List Operation) : Session × List Origin :=
  gateTree.play { chance := fun _ => .zero, clock := .steady .zero } operations

/-- The session that comes to the gate without the key and goes on. -/
def keyless : Session := (atGate [.start, .advance none, .advance none]).1

theorem reachable_keyless : Reachable gateTree keyless := (played_play _ _ _).reachable

end Colloquy
