import Colloquy.Script.Evaluation
import Colloquy.Script.Execution
import Colloquy.Session.Basic
import Colloquy.Tree.Links

/-!
# Play

How a session walks through a tree.  The tree is only read, and nothing here fails because a tree is
malformed or half connected: the session is stuck then and says why.

* `Response`, `Tree.startNode?`, `Tree.responses`, `Tree.arrival`: what a tree offers;
* `Session.start`, `Session.stop`, `Session.advance`, `Session.goto`: the operations;
* `Session.progress`: the share of the nodes that have been visited;
* `Operation`, `Operation.apply`: the operations as data.
-/

namespace Colloquy

/-! ### What a tree offers -/

/-- A response that is offered: the choice, its connections and the node that it leads to. -/
structure Response where
  index : Nat
  choice : Choice
  connections : List Connection
  target : Option Node

/-- Whether a response leads anywhere. -/
def Response.isEnabled (response : Response) : Bool := response.target.isSome

namespace Tree

/-- Where a conversation starts: the start node, or else the first spoken line or script, or else
the first node.  An empty id names no start node. -/
def startNode? (tree : Tree) : Option Node :=
  let nodes := tree.nodes.toList
  ((nonempty? tree.startNodeId).bind tree.find?).or
    ((nodes.find? (·.kind.isLinear)).or nodes.head?)

/-- The response for one choice of a node. -/
def response (tree : Tree) (node : Node) (index : Nat) (choice : Choice) : Response :=
  let connections := tree.outgoingFrom node.id choice.id
  { index, choice, connections, target := tree.firstTarget? connections }

/-- The responses that a node offers; only player choice nodes offer any. -/
def responses (tree : Tree) (node : Node) : List Response :=
  if node.kind = .playerChoice then node.choices.mapIdx (tree.response node) else []

/-- The message of a node that leads nowhere. -/
def noConnectionMessage (node : Node) : String :=
  "'" ++ node.title ++ "' has no connection to continue to."

/-- The closing message of an ending. -/
def closingMessage (node : Node) : String :=
  (nonempty? node.content).getD "This conversation has ended."

/-- How a session stands on its arrival at a node, and the message that goes with it. -/
def arrival (tree : Tree) (node : Node) : Status × Option String :=
  match node.kind with
  | .ending => (.ended, some (closingMessage node))
  | .npc | .action =>
    if (tree.targets (tree.outgoing node.id)).isEmpty then (.stuck, some (noConnectionMessage node))
    else (.running, none)
  | .playerChoice =>
    if (tree.responses node).any Response.isEnabled then (.running, none)
    else (.stuck, some ("'" ++ node.title ++ "' has no connected choices."))
  | .conditional => (.running, none)

end Tree

/-! ### Operations -/

/-- How an operation ended: the session, the sources, and why a script broke off if one did. -/
structure Turn where
  session : Session
  sources : Sources
  fault : Option NumberError := none

namespace Session

/-- The node where a session is. -/
def node? (session : Session) (tree : Tree) : Option Node := session.current.bind tree.find?

theorem find?_of_node? {session : Session} {tree : Tree} {node : Node}
    (here : session.node? tree = some node) : tree.find? node.id = some node := by
  obtain ⟨id, -, hid⟩ := Option.bind_eq_some_iff.mp here
  rwa [Tree.id_of_find? hid]

/-- The connections that start where a session is. -/
def outgoing (session : Session) (tree : Tree) : List Connection :=
  match session.current with
  | some id => tree.outgoing id
  | none => []

/-- The responses that are offered where a session is. -/
def responses (session : Session) (tree : Tree) : List Response :=
  match session.node? tree with
  | some node => tree.responses node
  | none => []

/-- The event of an arrival: a session that is stuck says why. -/
def arrivalEvents : Status × Option String → List Event
  | (.stuck, some message) => [.stuck message]
  | _ => []

/-- Bring a session to a node. -/
def moveTo (session : Session) (tree : Tree) (node : Node) (choiceText : Option String)
    (sources : Sources) : Session × Sources :=
  let (moment, rest) := sources.moment
  let arrived := tree.arrival node
  let moved : Session :=
    { current := some node.id
      visited := session.visited.put node.id
      store := session.store
      history := session.history ++ [{ nodeId := node.id, choiceText, moment }]
      status := arrived.1
      message := arrived.2 }
  (moved, rest.noteAll (arrivalEvents arrived))

/-- A new session at the start of a tree. -/
def start (tree : Tree) (sources : Sources) : Session × Sources :=
  match tree.startNode? with
  | some node => moveTo {} tree node none sources
  | none => ({ status := .noNodes, message := some "This dialog tree has no nodes." }, sources)

/-- A session that is not started. -/
def stop : Session := {}

/-- Leave a session where it is, stuck for the given reason. -/
def stick (session : Session) (message : String) (sources : Sources) : Turn :=
  { session := { session with status := .stuck, message := some message }
    sources := sources.note (.stuck message) }

/-- Bring a session to a node as a turn. -/
def turnTo (session : Session) (tree : Tree) (node : Node) (choiceText : Option String)
    (sources : Sources) : Turn :=
  let (moved, rest) := session.moveTo tree node choiceText sources
  { session := moved, sources := rest }

/-- Go on from a spoken line or a script.  A script is executed on leaving it; where it breaks off,
the session stays with what was done. -/
def advanceLinear (session : Session) (tree : Tree) (node : Node) (sources : Sources) : Turn :=
  match tree.firstTarget? (tree.outgoing node.id) with
  | none => session.stick (Tree.noConnectionMessage node) sources
  | some target =>
    if node.kind = .action then
      let x := executeScript node.body session.store sources
      let changed := { session with store := x.store }
      match x.fault with
      | some e => { session := changed, sources := x.sources, fault := some e }
      | none => changed.turnTo tree target none x.sources
    else session.turnTo tree target none sources

/-- The item at an index that may be negative or missing. -/
def selected? {α : Type} (items : List α) (selection : Option Int) : Option α :=
  selection.bind fun index => if 0 ≤ index then items[index.toNat]? else none

theorem mem_of_selected? {α : Type} {items : List α} {selection : Option Int} {a : α}
    (h : selected? items selection = some a) : a ∈ items := by
  obtain ⟨index, -, h⟩ := Option.bind_eq_some_iff.mp h
  split at h
  · exact List.mem_of_getElem? h
  · cases h

/-- Go on from a player choice node with the response that was selected. -/
def advanceChoice (session : Session) (tree : Tree) (node : Node) (selection : Option Int)
    (sources : Sources) : Turn :=
  let offered := tree.responses node
  match selected? offered selection with
  | none =>
    { session, sources := sources.note (.selectionRefused selection node.id offered.length) }
  | some response =>
    match response.target with
    | none => { session, sources := sources.note (.choiceRefused response.choice.text node.id) }
    | some target => session.turnTo tree target (some response.choice.text) sources

/-- The name of a verdict in a message. -/
def verdictName (verdict : Bool) : String := if verdict then "TRUE" else "FALSE"

/-- The message of a conditional node without a branch for a verdict. -/
def noBranchMessage (node : Node) (verdict : Bool) : String :=
  "Condition '" ++ node.body ++ "' was " ++ verdictName verdict ++ " but no '"
    ++ branchHandle verdict ++ "' branch is connected."

/-- Go on from a conditional node along the branch of its verdict. -/
def advanceConditional (session : Session) (tree : Tree) (node : Node) (sources : Sources) : Turn :=
  let (verdict, rest) := evaluateCondition node.body session.store sources
  match tree.firstTarget? (tree.outgoingFrom node.id (branchHandle verdict)) with
  | none => session.stick (noBranchMessage node verdict) rest
  | some target => session.turnTo tree target (some ("Condition: " ++ verdictName verdict)) rest

/-- Go on from where a session is.  Only a player choice node looks at the selection. -/
def advance (session : Session) (tree : Tree) (selection : Option Int) (sources : Sources) : Turn :=
  if !session.isRunning then { session, sources }
  else
    match session.node? tree with
    | none =>
      session.stick ("Node '" ++ session.current.getD "None" ++ "' no longer exists.") sources
    | some node =>
      match node.kind with
      | .ending => { session := { session with status := .ended }, sources }
      | .npc | .action => session.advanceLinear tree node sources
      | .playerChoice => session.advanceChoice tree node selection sources
      | .conditional => session.advanceConditional tree node sources

/-- Jump to a node, if it exists and the session has been started. -/
def goto (session : Session) (tree : Tree) (id : String) (sources : Sources) :
    Bool × Session × Sources :=
  match tree.find? id, session.current with
  | some node, some _ => (true, session.moveTo tree node none sources)
  | _, _ => (false, session, sources)

section Arrival

variable (session : Session) (tree : Tree) (node : Node) (text : Option String) (sources : Sources)

@[simp] theorem current_moveTo : (session.moveTo tree node text sources).1.current = some node.id :=
  rfl

@[simp] theorem store_moveTo : (session.moveTo tree node text sources).1.store = session.store :=
  rfl

@[simp] theorem status_moveTo :
    (session.moveTo tree node text sources).1.status = (tree.arrival node).1 := rfl

@[simp] theorem message_moveTo :
    (session.moveTo tree node text sources).1.message = (tree.arrival node).2 := rfl

@[simp] theorem history_moveTo :
    (session.moveTo tree node text sources).1.history =
      session.history ++ [⟨node.id, text, sources.moments + 1⟩] := rfl

@[simp] theorem session_turnTo :
    (session.turnTo tree node text sources).session = (session.moveTo tree node text sources).1 :=
  rfl

@[simp] theorem fault_turnTo : (session.turnTo tree node text sources).fault = none := rfl

@[simp] theorem clock_moveTo : (session.moveTo tree node text sources).2.clock = sources.clock :=
  Sources.clock_noteAll _ _

@[simp] theorem clock_turnTo :
    (session.turnTo tree node text sources).sources.clock = sources.clock :=
  clock_moveTo session tree node text sources

@[simp] theorem clock_stick (message : String) :
    (session.stick message sources).sources.clock = sources.clock := rfl

@[simp] theorem clock_start : (start tree sources).2.clock = sources.clock := by
  unfold start
  split <;> simp

end Arrival

/-- The share of the nodes of a tree that a session has visited. -/
def progress (session : Session) (tree : Tree) : Double :=
  if tree.nodes.isEmpty then .zero
  else .ofRat (mkRat session.visited.size tree.nodes.size)

end Session

/-! ### Operations as data -/

/-- What can be done with a session. -/
inductive Operation
  | start
  | stop
  | restart
  | advance (selection : Option Int)
  | goto (id : String)
  | setVariable (name : String) (value : Value)
  deriving DecidableEq

/-- Carry out an operation on a session. -/
def Operation.apply (operation : Operation) (tree : Tree) (session : Session) (sources : Sources) :
    Turn :=
  match operation with
  | .start | .restart =>
    let (started, rest) := Session.start tree sources
    { session := started, sources := rest }
  | .stop => { session := .stop, sources }
  | .advance selection => session.advance tree selection sources
  | .goto id =>
    let (_, moved, rest) := session.goto tree id sources
    { session := moved, sources := rest }
  | .setVariable name value =>
    { session := { session with store := Store.set session.store name value }, sources }

end Colloquy
