import Colloquy.Json.Basic
import Colloquy.Roster

/-!
# Dialog trees

A dialog tree is a graph of nodes, one for each step of a conversation, and of connections between
them.  A connection names its ends by the ids of nodes, which need not exist, and may start at a
handle: a choice of a player choice node or a branch of a conditional node.

* `NodeKind`, `Node`, `Choice`, `Position`, `Connection`, `Tree`, `Character`;
* `Node.body`, `Node.label`, `Character.label`: what is shown of them.

The nodes of a tree have distinct ids and keep their order.
-/

namespace Colloquy

/-- The kinds of nodes. -/
inductive NodeKind
  /-- A line that a character speaks. -/
  | npc
  /-- Responses from which the player picks one. -/
  | playerChoice
  /-- A condition with a branch for each verdict. -/
  | conditional
  /-- A script. -/
  | action
  /-- The end of the conversation. -/
  | ending
  deriving DecidableEq

namespace NodeKind

/-- The name of a kind in a document. -/
def name : NodeKind → String
  | .npc => "npc"
  | .playerChoice => "player_choice"
  | .conditional => "conditional"
  | .action => "action"
  | .ending => "end"

/-- All kinds. -/
def all : List NodeKind := [.npc, .playerChoice, .conditional, .action, .ending]

/-- The kind with a name. -/
def ofName? (name : String) : Option NodeKind := all.find? (·.name == name)

/-- Whether a node of this kind simply leads on to the next one. -/
def isLinear : NodeKind → Bool
  | .npc | .action => true
  | _ => false

@[simp] theorem ofName?_name (kind : NodeKind) : ofName? kind.name = some kind := by
  cases kind <;> decide

theorem name_of_ofName? {name : String} {kind : NodeKind} (h : ofName? name = some kind) :
    kind.name = name := by
  simpa using List.find?_some h

end NodeKind

/-- Where a node lies in the editor. -/
structure Position where
  x : Double := .zero
  y : Double := .zero
  deriving DecidableEq

/-- A response that the player can pick. -/
structure Choice where
  id : String
  text : String
  deriving DecidableEq

/-- A step of a conversation. -/
structure Node where
  id : String
  kind : NodeKind
  title : String := ""
  /-- Spoken lines, a condition, a script or a closing message, as the kind has it. -/
  content : Option String := none
  /-- The id of the character who speaks. -/
  character : Option String := none
  /-- The responses of a player choice node, in the order in which they are shown. -/
  choices : List Choice := []
  /-- What an editor keeps with the node. -/
  metadata : Json.Members := []
  position : Position := {}

namespace Node

/-- The content, empty where there is none. -/
def body (node : Node) : String := node.content.getD ""

/-- What a node is called in a message: its title or, without one, its id. -/
def label (node : Node) : String := if node.title.isEmpty then node.id else node.title

/-- The choice with an id. -/
def findChoice? (node : Node) (id : String) : Option Choice := node.choices.find? (·.id == id)

end Node

/-- A connection from a node, or from a handle of it, to a node. -/
structure Connection where
  id : String
  source : String
  target : String
  /-- A choice's id or the name of a branch. -/
  sourceHandle : Option String := none
  targetHandle : Option String := none
  deriving DecidableEq

/-- The handle of the branch for a verdict. -/
def branchHandle (verdict : Bool) : String := if verdict then "true" else "false"

/-- Whether a handle is that of a branch. -/
def isBranchHandle (handle : Option String) : Bool :=
  handle == some (branchHandle true) || handle == some (branchHandle false)

/-- A person of the story. -/
structure Character where
  id : String
  name : String
  displayName : Option String := none
  role : Option String := none
  color : Option String := none
  deriving DecidableEq

/-- A text that is given and not empty. -/
def nonempty? (text : Option String) : Option String := text.filter (!·.isEmpty)

/-- What a character is called: the display name or, without one, the name. -/
def Character.label (character : Character) : String :=
  (nonempty? character.displayName).getD character.name

/-- A branching conversation. -/
structure Tree where
  id : String
  name : String
  description : Option String := none
  nodes : Roster Node.id := .empty
  connections : List Connection := []
  /-- Where the conversation starts. -/
  startNodeId : Option String := none

@[simp] theorem nonempty?_none : nonempty? none = none := rfl

theorem nonempty?_eq_some_iff {text : Option String} {s : String} :
    nonempty? text = some s ↔ text = some s ∧ s ≠ "" := by
  cases text <;> simp [nonempty?, Option.filter]
  grind

end Colloquy
