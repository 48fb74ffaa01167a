import Colloquy.Document.Load
import Colloquy.Proofs.Json.Kept
import Mathlib.Data.List.Forall2

/-!
# Laws of readers and builders

What loading relies on in those who read texts and build records, each law for itself.  A record is
made of the values under the keys of its fields, and of the values of lists and objects in their
order; a field that need not be there has a value of its own.

* `Tree.IsRecordOf`, `Character.IsRecordOf`: what the records of members are;
* `Builder.KeepsOrder`: what is built is such a record;
* `Builder.BuildsRecords`: where there is such a record it is built;
* `knownTree`, `knownCharacter`, `Builder.IgnoresUnknown`: other keys make no difference;
* `Builder.BreaksOnlyAtCasts`: what else than a wording the building can fail with;
* `TextReader.ReadsBlank`: blank text is null.
-/

namespace Colloquy

/-- A text, or null where there is none. -/
def Json.orNull : Option String → Json
  | none => .null
  | some s => .text s

/-- Values that are objects, of which the records are made one by one. -/
def Json.Records {α : Type} (record : α → Json.Members → Prop) : List Json → List α → Prop :=
  List.Forall₂ fun value a => ∃ members, value = .object members ∧ record a members

/-! ### Records -/

/-- A coordinate is the real number of the value under a key, or zero. -/
def Json.IsCoordinate (members : Json.Members) (key : String) (x : Double) : Prop :=
  ((Json.getMember? members key).map castReal).getD (.ok .zero) = .ok x

/-- A position that is made of the members of an object. -/
structure Position.IsRecordOf (position : Position) (members : Json.Members) : Prop where
  x : Json.IsCoordinate members "x" position.x
  y : Json.IsCoordinate members "y" position.y

/-- A choice that is made of the members of an object. -/
structure Choice.IsRecordOf (choice : Choice) (members : Json.Members) : Prop where
  id : Json.getMember? members "id" = some (.text choice.id)
  text : Json.getMember? members "text" = some (.text choice.text)

/-- A node whose data are made of the members of an object. -/
structure Node.HasData (node : Node) (data : Json.Members) : Prop where
  title : (Json.getMember? data "title").getD (.text "") = .text node.title
  content : (Json.getMember? data "content").getD .null = .orNull node.content
  character : (Json.getMember? data "character").getD .null = .orNull node.character
  choices : ∃ items, (Json.getMember? data "choices").getD (.list []) = .list items ∧
    Json.Records Choice.IsRecordOf items node.choices
  metadata : (Json.getMember? data "metadata").getD (.object []) = .object node.metadata

/-- A node that is made of the members of an object. -/
structure Node.IsRecordOf (node : Node) (members : Json.Members) : Prop where
  id : Json.getMember? members "id" = some (.text node.id)
  kind : Json.getMember? members "kind" = some (.text node.kind.name)
  data : ∃ data, (Json.getMember? members "data").getD (.object []) = .object data ∧
    node.HasData data
  position : ∃ inner, (Json.getMember? members "position").getD (.object []) = .object inner ∧
    node.position.IsRecordOf inner

/-- A connection that is made of the members of an object. -/
structure Connection.IsRecordOf (connection : Connection) (members : Json.Members) : Prop where
  id : Json.getMember? members "id" = some (.text connection.id)
  source : Json.getMember? members "source" = some (.text connection.source)
  target : Json.getMember? members "target" = some (.text connection.target)
  sourceHandle :
    (Json.getMember? members "source_handle").getD .null = .orNull connection.sourceHandle
  targetHandle :
    (Json.getMember? members "target_handle").getD .null = .orNull connection.targetHandle

/-- A tree that is made of the members of an object.  Its nodes have their keys. -/
structure Tree.IsRecordOf (tree : Tree) (members : Json.Members) : Prop where
  id : Json.getMember? members "id" = some (.text tree.id)
  name : Json.getMember? members "name" = some (.text tree.name)
  description : (Json.getMember? members "description").getD .null = .orNull tree.description
  nodes : ∃ nodes, (Json.getMember? members "nodes").getD (.object []) = .object nodes ∧
    nodes.map Prod.fst = tree.nodes.keys ∧
    Json.Records Node.IsRecordOf (nodes.map Prod.snd) tree.nodes.toList
  connections : ∃ items, (Json.getMember? members "connections").getD (.list []) = .list items ∧
    Json.Records Connection.IsRecordOf items tree.connections
  startNodeId : (Json.getMember? members "start_node_id").getD .null = .orNull tree.startNodeId

/-- A character that is made of the members of an object. -/
structure Character.IsRecordOf (character : Character) (members : Json.Members) : Prop where
  id : Json.getMember? members "id" = some (.text character.id)
  name : Json.getMember? members "name" = some (.text character.name)
  displayName : (Json.getMember? members "display_name").getD .null = .orNull character.displayName
  role : (Json.getMember? members "role").getD .null = .orNull character.role
  color : (Json.getMember? members "color").getD .null = .orNull character.color

/-! ### Known keys -/

namespace Document

open Json (keep onMembers onItems onValues)

/-- The members that make a position. -/
def knownPosition : Json.Members → Json.Members := keep ["x", "y"] []

/-- The members that make a choice. -/
def knownChoice : Json.Members → Json.Members := keep ["id", "text"] []

/-- The members that make the data of a node. -/
def knownData : Json.Members → Json.Members :=
  keep ["title", "content", "character", "metadata"] [("choices", onItems knownChoice)]

/-- The members that make a node. -/
def knownNode : Json.Members → Json.Members :=
  keep ["id", "kind"] [("data", onMembers knownData), ("position", onMembers knownPosition)]

/-- The members that make a connection. -/
def knownConnection : Json.Members → Json.Members :=
  keep ["id", "source", "target", "source_handle", "target_handle"] []

/-- The members that make a tree. -/
def knownTree : Json.Members → Json.Members :=
  keep ["id", "name", "description", "start_node_id"]
    [("nodes", onValues knownNode), ("connections", onItems knownConnection)]

/-- The members that make a character. -/
def knownCharacter : Json.Members → Json.Members :=
  keep ["id", "name", "display_name", "role", "color"] []

/-- The nodes are the values of an object whose keys are their ids. -/
def NodesAreKeyed (members : Json.Members) : Prop :=
  ∀ nodes, Json.getMember? members "nodes" = some (.object nodes) →
    (nodes.map Prod.fst).Nodup ∧ ∀ node ∈ nodes, node.2.get? "id" = some (.text node.1)

end Document

open Document

/-! ### Laws -/

namespace Builder

/-- A tree that is built is made of the members: each field of the value under its key, and the
nodes and connections in their order. -/
def KeepsOrder (builder : Builder) : Prop :=
  ∀ members tree, NodesAreKeyed members → builder.tree members = .ok tree →
    tree.IsRecordOf members

/-- What can be made of the members is built. -/
structure BuildsRecords (builder : Builder) : Prop where
  tree : ∀ members tree, tree.IsRecordOf members → builder.tree members = .ok tree
  character : ∀ members character, character.IsRecordOf members →
    builder.character members = .ok character

/-- Members with other keys than those of fields make no difference, neither does the order of the
fields. -/
structure IgnoresUnknown (builder : Builder) : Prop where
  tree : ∀ members, builder.tree (knownTree members) = builder.tree members
  character : ∀ members, builder.character (knownCharacter members) = builder.character members

/-- The building breaks down only at a value that cannot become a real number, and characters have
no such values.  A wording is at hand unless an integer is too long to be written. -/
structure BreaksOnlyAtCasts (builder : Builder) : Prop where
  tree : ∀ members b, builder.tree members = .error (.broken b) →
    ∃ value, castReal value = .error (.broken b)
  character : ∀ members error, builder.character members = .error error →
    ∃ wording, error = .unfit wording
  treeWording : ∀ members e, builder.tree members = .error (.unfit (.error e)) →
    e = .tooLongToWrite
  characterWording : ∀ members e, builder.character members = .error (.unfit (.error e)) →
    e = .tooLongToWrite

end Builder

/-- A text of nothing but spaces and line feeds. -/
def IsBlankText (text : String) : Prop := ∀ c ∈ text.toList, c = ' ' ∨ c = '\n'

/-- Blank text is null. -/
def TextReader.ReadsBlank (reader : TextReader) : Prop :=
  ∀ text, IsBlankText text → reader.read text = .ok .null

end Colloquy
