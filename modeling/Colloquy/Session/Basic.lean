import Colloquy.Store
import Colloquy.Tree.Basic

/-!
# Sessions

A session is one walk through a tree: where it is, where it has been, and the variables it has set.

* `Status`, `HistoryEntry`, `Session`;
* `Session.isRunning`, `Session.visitedInOrder`.
-/

namespace Colloquy

/-- How a session stands. -/
inductive Status
  /-- Not started. -/
  | idle
  /-- The tree had no nodes when the session was started. -/
  | noNodes
  /-- At a node from which it can go on, as far as one can see on arrival. -/
  | running
  /-- At a node from which it cannot go on. -/
  | stuck
  /-- At an ending. -/
  | ended
  deriving DecidableEq

/-- The name of a status. -/
def Status.name : Status → String
  | .idle => "idle"
  | .noNodes => "no_nodes"
  | .running => "running"
  | .stuck => "stuck"
  | .ended => "ended"

/-- A step of the walk: the node that was reached, the text of the choice that led there, and the
moment. -/
structure HistoryEntry where
  nodeId : String
  choiceText : Option String := none
  moment : Nat
  deriving DecidableEq

/-- Ids of nodes, each once. -/
abbrev Visited := Roster (id : String → String)

/-- A walk through a tree. -/
structure Session where
  /-- The id of the node where the session is. -/
  current : Option String := none
  visited : Visited := .empty
  /-- The variables that have been set. -/
  store : Store := .empty
  history : List HistoryEntry := []
  status : Status := .idle
  /-- Why the session is stuck, or the closing message once it has ended. -/
  message : Option String := none
  deriving DecidableEq

namespace Session

/-- Whether the session is on its way, stuck or not. -/
def isRunning (session : Session) : Bool := session.status = .running || session.status = .stuck

/-- The ids of the nodes where the session has been, in the order of the ids. -/
def visitedInOrder (session : Session) : List String :=
  session.visited.toList.mergeSort fun a b => decide (a ≤ b)

theorem isRunning_iff (session : Session) :
    session.isRunning = true ↔ session.status = .running ∨ session.status = .stuck := by
  simp [isRunning]

end Session

end Colloquy
