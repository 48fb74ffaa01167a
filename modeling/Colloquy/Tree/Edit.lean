import Colloquy.Sources
import Colloquy.Tree.Links

/-!
# Edits

What an editor does to a tree.  An edit that fails leaves the tree as it was; ids that it took stay
taken.

* `Draft`, `Draft.build`: a new node with fresh ids and default texts;
* `EditError`: why an edit fails;
* `Edit`, `Edit.apply`: the edits and what they answer.
-/

namespace Colloquy

/-- Why an edit fails. -/
inductive EditError
  | nodeExists (id tree : String)
  | notPlayerChoice (id : String)
  | unknownNode (id : String)
  | unknownKind (name : String)
  deriving DecidableEq

/-- The wording of a failure. -/
def EditError.message : EditError → String
  | .nodeExists id tree => "Node '" ++ id ++ "' already exists in tree '" ++ tree ++ "'."
  | .notPlayerChoice id => "Node '" ++ id ++ "' is not a player choice node."
  | .unknownNode id => Text.quoted id
  | .unknownKind name => Text.quoted name ++ " is not a valid NodeKind"

/-- What is given of a node that is to be made. -/
structure Draft where
  title : Option String := none
  content : Option String := none
  character : Option String := none
  /-- The texts of the choices; an empty list stands for one placeholder. -/
  choices : List String := []
  id : Option String := none
  position : Option Position := none
  deriving DecidableEq

/-- Give each text a fresh id. -/
def freshChoices : List String → Sources → List Choice × Sources
  | [], sources => ([], sources)
  | text :: texts, sources =>
    let (id, taken) := sources.freshId
    let (choices, rest) := freshChoices texts taken
    ({ id, text } :: choices, rest)

/-- The texts of the choices that a draft asks for; only player choice nodes have choices. -/
def Draft.choiceTexts (draft : Draft) (kind : NodeKind) : List String :=
  if kind = .playerChoice then
    if draft.choices.isEmpty then ["Choice 1"] else draft.choices
  else []

/-- The id that a draft asks for, or a fresh one; an empty id asks for none. -/
def Draft.chooseId (draft : Draft) (sources : Sources) : String × Sources :=
  match nonempty? draft.id with
  | some id => (id, sources)
  | none => sources.freshId

/-- The node of a kind that a draft describes.  Its choices take their ids before the node takes its
own. -/
def Draft.build (draft : Draft) (kind : NodeKind) (sources : Sources) : Node × Sources :=
  let (choices, afterChoices) := freshChoices (draft.choiceTexts kind) sources
  let (id, rest) := draft.chooseId afterChoices
  let node : Node :=
    { id
      kind
      title := draft.title.getD ("New " ++ kind.name ++ " node")
      content := draft.content
      character := draft.character
      choices
      position := draft.position.getD {} }
  (node, rest)

namespace Tree

/-- The node with an id, which has to exist. -/
def node (tree : Tree) (id : String) : Except EditError Node :=
  match tree.find? id with
  | some n => .ok n
  | none => .error (.unknownNode id)

/-- The tree with a node put in place of the one that has its id. -/
def putNode (tree : Tree) (n : Node) : Tree := { tree with nodes := tree.nodes.put n }

/-- Add a node with a new id. -/
def addNode (tree : Tree) (n : Node) : Except EditError Tree :=
  if tree.has n.id then .error (.nodeExists n.id tree.name) else .ok (tree.putNode n)

/-- Whether a connection has neither end at a node. -/
def avoids (id : String) (c : Connection) : Bool := c.source != id && c.target != id

/-- Remove a node with every connection at it; a start node is forgotten. -/
def removeNode (tree : Tree) (id : String) : Tree :=
  if tree.has id then
    { tree with
      nodes := tree.nodes.erase id
      connections := tree.connections.filter (avoids id)
      startNodeId := if tree.startNodeId = some id then none else tree.startNodeId }
  else tree

/-- Add a connection behind the others. -/
def addConnection (tree : Tree) (c : Connection) : Tree :=
  { tree with connections := tree.connections ++ [c] }

/-- Remove every connection with an id. -/
def removeConnection (tree : Tree) (id : String) : Tree :=
  { tree with connections := tree.connections.filter (·.id != id) }

/-- Change the node with an id, which has to exist. -/
def changeNode (tree : Tree) (id : String) (change : Node → Node) : Except EditError Tree :=
  (tree.node id).map fun n => tree.putNode { change n with id := n.id }

end Tree

/-- The edits. -/
inductive Edit
  /-- Make a node of the kind with the given name and add it. -/
  | createNode (kind : String) (draft : Draft)
  | removeNode (id : String)
  | connect (source target : String) (handle : Option String)
  | removeConnection (id : String)
  | addChoice (node text : String)
  | setChoices (node : String) (choices : List Choice)
  | setStart (id : Option String)
  | setTitle (node title : String)
  | setContent (node : String) (content : Option String)
  | setCharacter (node : String) (character : Option String)
  | setKind (node kind : String)
  deriving DecidableEq

/-- What an edit answers. -/
inductive EditAnswer
  | nothing
  | node (n : Option Node)
  | connection (c : Connection)
  | choice (c : Choice)

namespace Edit

/-- The kind with a name, which has to exist. -/
def kindNamed (name : String) : Except EditError NodeKind :=
  match NodeKind.ofName? name with
  | some kind => .ok kind
  | none => .error (.unknownKind name)

/-- An edit that takes no ids and answers nothing. -/
def silently (sources : Sources) (result : Except EditError Tree) :
    Except EditError (EditAnswer × Tree) × Sources :=
  (result.map fun tree => (.nothing, tree), sources)

/-- Carry out an edit: the answer and the tree after it, or why it failed. -/
def attempt (tree : Tree) (sources : Sources) :
    Edit → Except EditError (EditAnswer × Tree) × Sources
  | .createNode name draft =>
    match kindNamed name with
    | .error e => (.error e, sources)
    | .ok kind =>
      let (n, rest) := draft.build kind sources
      ((tree.addNode n).map fun grown => (.node (some n), grown), rest)
  | .removeNode id => (.ok (.node (tree.find? id), tree.removeNode id), sources)
  | .connect source target handle =>
    let (id, rest) := sources.freshId
    let c : Connection := { id, source, target, sourceHandle := handle }
    (.ok (.connection c, tree.addConnection c), rest)
  | .removeConnection id => silently sources (.ok (tree.removeConnection id))
  | .addChoice id text =>
    match tree.node id with
    | .error e => (.error e, sources)
    | .ok n =>
      if n.kind = .playerChoice then
        let (choiceId, rest) := sources.freshId
        let c : Choice := { id := choiceId, text }
        (.ok (.choice c, tree.putNode { n with choices := n.choices ++ [c] }), rest)
      else (.error (.notPlayerChoice id), sources)
  | .setChoices id choices => silently sources (tree.changeNode id fun n => { n with choices })
  | .setStart id => silently sources (.ok { tree with startNodeId := id })
  | .setTitle id title => silently sources (tree.changeNode id fun n => { n with title })
  | .setContent id content => silently sources (tree.changeNode id fun n => { n with content })
  | .setCharacter id character =>
    silently sources (tree.changeNode id fun n => { n with character })
  | .setKind id name =>
    match kindNamed name with
    | .error e => (.error e, sources)
    | .ok kind => silently sources (tree.changeNode id fun n => { n with kind })

/-- How an edit ended. -/
structure Outcome where
  tree : Tree
  sources : Sources
  answer : Except EditError EditAnswer

/-- Carry out an edit; one that fails leaves the tree as it was. -/
def apply (edit : Edit) (tree : Tree) (sources : Sources) : Outcome :=
  match edit.attempt tree sources with
  | (.ok (answer, changed), rest) => { tree := changed, sources := rest, answer := .ok answer }
  | (.error e, rest) => { tree, sources := rest, answer := .error e }

end Edit

end Colloquy
