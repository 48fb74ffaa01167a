import Colloquy.Proofs.Session.Staging
import Colloquy.Proofs.Session.Standing

/-!
# Closing messages

A session that ends by arriving at an ending says the closing message of it.  Where the node of a
session has become an ending under it, the session ends with the message that it has.

* `Session.IsTold`: the message of a session that is under way;
* `Stage.IsReachable.isTold`: it holds at every point;
* `Session.HasClosed`, `Session.hasClosed_apply`: an operation that ends a session brings it to an
  ending with its closing message, unless it goes on from one;
* `Session.Concludes`: how sessions end and what they say;
* `Staged.concludes`: they do so at every point, whatever happened to the session and to the tree.
-/

namespace Colloquy

namespace Session

variable {s : Session} {tree : Tree} {node : Node} {happened : List Happening}

/-! ### Messages under way -/

/-- A session that runs has no message, and one that is stuck has a warning. -/
structure IsTold (s : Session) : Prop where
  running : s.status = .running → s.message = none
  stuck : s.status = .stuck → ∃ warning, s.message = some warning ∧ warning ≠ ""

theorem IsExact.isTold (h : s.IsExact tree) : s.IsTold where
  running status := (h.running status).1
  stuck status :=
    let ⟨warning, told, hsome, _⟩ := h.stuck status
    ⟨warning, told, hsome⟩

theorem isTold_stick (s : Session) {warning : String} (hsome : warning ≠ "") (sources : Sources) :
    (s.stick warning sources).session.IsTold :=
  ⟨nofun, fun _ => ⟨warning, rfl, hsome⟩⟩

theorem IsTold.withStore (h : s.IsTold) (store : Store) : (s.withStore store).IsTold :=
  ⟨h.running, h.stuck⟩

theorem isTold_moveTo (s : Session) (found : tree.find? node.id = some node) (text : Option String)
    (sources : Sources) : (s.moveTo tree node text sources).1.IsTold :=
  (standing_moveTo found text sources).isExact.isTold

theorem IsTold.advance (h : s.IsTold) (tree : Tree) (selection : Option Int) (sources : Sources) :
    (s.advance tree selection sources).session.IsTold := by
  have honward := onward_advance tree s selection sources
  generalize s.advance tree selection sources = turn at honward ⊢
  cases honward with
  | asleep => exact h
  | refused => exact h
  | lost => exact s.isTold_stick (append_ne_empty (by decide)) sources
  | ended => exact ⟨nofun, nofun⟩
  | deadEnd => exact s.isTold_stick (append_ne_empty (by decide)) sources
  | branchless => exact s.isTold_stick (append_ne_empty (by decide)) _
  | broken => exact h.withStore _
  | moved _ _ reaches =>
    have hid := Tree.id_of_find? reaches
    exact isTold_moveTo _ (by rwa [hid]) _ _

theorem IsTold.goto (h : s.IsTold) (tree : Tree) (id : String) (sources : Sources) :
    (s.goto tree id sources).2.1.IsTold := by
  rcases goto_cases tree s id sources with ⟨node, found, hgoto⟩ | hgoto <;> rw [hgoto]
  · exact s.isTold_moveTo found none sources
  · exact h

/-- Every operation, in whatever tree, leaves the session with a message that fits. -/
theorem IsTold.apply (h : s.IsTold) (operation : Operation) (tree : Tree) (sources : Sources) :
    (operation.apply tree s sources).session.IsTold := by
  cases operation with
  | start | restart => exact (standing_start tree sources).isExact.isTold
  | stop => exact ⟨nofun, nofun⟩
  | advance selection => exact h.advance tree selection sources
  | goto id => exact h.goto tree id sources
  | setVariable name value => exact h.withStore _

end Session

theorem Stage.IsReachable.isTold {stage : Stage} (h : stage.IsReachable) (name : String) :
    (stage.sessions name).IsTold := by
  induction h with
  | opening => exact ⟨nofun, nofun⟩
  | @operated stage other operation sources _ ih =>
    by_cases hother : name = other
    · simp only [operate, hother, if_true]
      exact (hother ▸ ih).apply operation stage.tree sources
    · simp only [operate, hother, if_false]
      exact ih
  | edited _ _ _ ih => exact ih
  | changed _ _ ih => exact ih

/-! ### Endings -/

namespace Session

variable {s : Session} {tree : Tree} {node : Node} {happened : List Happening}

/-- A session that is at an ending and says the closing message of it. -/
def HasClosed (s : Session) (tree : Tree) : Prop :=
  ∃ node, s.node? tree = some node ∧ node.kind = .ending ∧
    s.message = some (if node.body = "" then "This conversation has ended." else node.body)

theorem hasClosed_moveTo (found : tree.find? node.id = some node) {text : Option String}
    {sources : Sources} (ended : (s.moveTo tree node text sources).1.status = .ended) :
    (s.moveTo tree node text sources).1.HasClosed tree := by
  have hexact := (standing_moveTo (s := s) found text sources).isExact
  obtain ⟨there, hnode, kind⟩ := hexact.ended_iff.mp ended
  exact ⟨there, hnode, kind, hexact.closing there ended hnode⟩

theorem hasClosed_start {sources : Sources} (ended : (start tree sources).1.status = .ended) :
    (start tree sources).1.HasClosed tree := by
  have hexact := (standing_start tree sources).isExact
  obtain ⟨there, hnode, kind⟩ := hexact.ended_iff.mp ended
  exact ⟨there, hnode, kind, hexact.closing there ended hnode⟩

theorem hasClosed_advance {selection : Option Int} {sources : Sources} (before : s.status ≠ .ended)
    (ended : (s.advance tree selection sources).session.status = .ended)
    (away : ∀ node, s.IsAt tree node → node.kind ≠ .ending) :
    (s.advance tree selection sources).session.HasClosed tree := by
  have honward := onward_advance tree s selection sources
  generalize s.advance tree selection sources = turn at honward ended ⊢
  cases honward with
  | asleep => exact absurd ended before
  | refused => exact absurd ended before
  | broken => exact absurd ended before
  | lost | deadEnd | branchless => cases ended
  | ended here kind => exact absurd kind (away _ here)
  | moved _ _ reaches =>
    have hid := Tree.id_of_find? reaches
    exact hasClosed_moveTo (by rwa [hid]) ended

/-- An operation that ends a session brings it to an ending, unless it goes on from one. -/
theorem hasClosed_apply {operation : Operation} {sources : Sources} (before : s.status ≠ .ended)
    (ended : (operation.apply tree s sources).session.status = .ended)
    (away : ∀ selection node, operation = .advance selection → s.IsAt tree node →
      node.kind ≠ .ending) :
    (operation.apply tree s sources).session.HasClosed tree := by
  cases operation with
  | start | restart => exact hasClosed_start ended
  | stop => cases ended
  | advance selection => exact hasClosed_advance before ended fun node => away selection node rfl
  | goto id =>
    simp only [Operation.apply] at ended ⊢
    rcases goto_cases tree s id sources with ⟨node, found, hgoto⟩ | hgoto <;> rw [hgoto] at ended ⊢
    · exact hasClosed_moveTo found ended
    · exact absurd ended before
  | setVariable => exact absurd ended before

/-- Going on from an ending ends a session as it is. -/
theorem advance_of_ending (here : s.IsAt tree node) (kind : node.kind = .ending)
    (selection : Option Int) (sources : Sources) :
    s.advance tree selection sources = { session := { s with status := .ended }, sources } := by
  simp [advance, here.running, here.here, kind]

/-- How a session ends and what it says, after what has happened since it was started. -/
structure Concludes (s : Session) (tree : Tree) (happened : List Happening) : Prop where
  /-- An operation that ends the session brings it to an ending with its closing message, unless it
  goes on from an ending. -/
  arrives : ∀ (operation : Operation) (sources : Sources), s.status ≠ .ended →
    (operation.apply tree s sources).session.status = .ended →
      (∀ selection node, operation = .advance selection → s.IsAt tree node → node.kind ≠ .ending) →
        (operation.apply tree s sources).session.HasClosed tree
  /-- Going on from an ending ends the session without another message. -/
  stays : ∀ node, s.IsAt tree node → node.kind = .ending → ∀ selection sources,
    s.advance tree selection sources = { session := { s with status := .ended }, sources }
  /-- The message that is left then is none or a warning. -/
  left : s.IsTold
  /-- The session is under way at an ending only if its node was removed or is of a new kind. -/
  cause : ∀ node, s.IsAt tree node → node.kind = .ending →
    .edit (.removeNode node.id) ∈ happened ∨ ∃ name, .edit (.setKind node.id name) ∈ happened

end Session

/-- **A session that arrives at an ending says its closing message**, whatever was done to the
sessions and to the tree that they share; one whose node has become an ending keeps what it said. -/
theorem Staged.concludes {stage : Stage} {log : List Happening} (h : Staged stage log)
    (name : String) : (stage.sessions name).Concludes stage.tree (since name log) where
  arrives _ _ before ended away := Session.hasClosed_apply before ended away
  stays _ here kind selection sources := Session.advance_of_ending here kind selection sources
  left := h.isReachable.isTold name
  cause := (h.isTraced name).upright

/-- A guest in the hall, which is rebuilt as an ending. -/
def rebuilt : List Happening :=
  [.operation "guest" .start, .edit (.removeNode "hall"),
    .addition { id := "hall", kind := .ending, title := "Hall", content := some "Farewell." }]

/-- The guest ends in the hall without a farewell. -/
theorem concludes_rebuilt :
    let outside : Sources := { chance := fun _ => .zero, clock := .steady .zero }
    let stage := gateTree.stageAfter outside rebuilt
    let s := stage.sessions "guest"
    Staged stage rebuilt ∧ s.status = .running ∧
      (∃ node, s.IsAt stage.tree node ∧ node.kind = .ending ∧ node.body = "Farewell.") ∧
      (s.advance stage.tree none outside).session.status = .ended ∧
      (s.advance stage.tree none outside).session.message = none ∧
      s.Concludes stage.tree (since "guest" rebuilt) := by
  refine ⟨staged_stageAfter _ _ _, by decide +kernel, ⟨_, ⟨by decide +kernel, rfl⟩, rfl, rfl⟩,
    by decide +kernel, by decide +kernel, Staged.concludes (staged_stageAfter _ _ _) "guest"⟩

end Colloquy
