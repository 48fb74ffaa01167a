import Colloquy.Document.File
import Colloquy.Document.Plain

/-!
# The standard builder

The builder and the reader that the program loads its files with.  Fields are read in a fixed order,
the first one that does not fit gives the error, and unknown keys are passed over.

* `requiredText`, `optionalText`, `optionalObject`, `optionalList`: the types of fields;
* `buildAll`, `buildNode`, `buildConnection`, `buildTree`, `buildCharacter`: the records;
* `Builder.standard`, `TextReader.standard`;
* `load`, `loadFile`: loading with them.
-/

namespace Colloquy

namespace Document

/-- What reading a field gives. -/
abbrev Read (α : Type) := Except BuildError α

/-! ### Fields -/

/-- A field of another type than it should be. -/
def wrongType {α : Type} (path expected : String) (value : Json) : Read α :=
  .error (.unfit (value.display.map fun shown =>
    "wrong value type for field \"" ++ path ++ "\" - should be \"" ++ expected
      ++ "\" instead of value \"" ++ shown ++ "\" of type \"" ++ value.kindName ++ "\""))

/-- A field that is not there. -/
def missing {α : Type} (path : String) : Read α :=
  .error (.unfit (.ok ("missing value for field \"" ++ path ++ "\"")))

/-- A text. -/
def textAt (path : String) : Json → Read String
  | .text s => .ok s
  | value => wrongType path "str" value

/-- A text or nothing. -/
def optionalTextAt (path : String) : Json → Read (Option String)
  | .null => .ok none
  | .text s => .ok (some s)
  | value => wrongType path "typing.Optional[str]" value

/-- The members of an object. -/
def objectAt (path expected : String) : Json → Read Json.Members
  | .object members => .ok members
  | value => wrongType path expected value

/-- The items of a list. -/
def listAt (path : String) : Json → Read (List Json)
  | .list items => .ok items
  | value => wrongType path "list" value

/-- A text under a key that has to be there; `outer` is the path to the object. -/
def requiredText (outer : String) (members : Json.Members) (key : String) : Read String :=
  match Json.getMember? members key with
  | none => missing (outer ++ key)
  | some value => textAt (outer ++ key) value

/-- A text under a key that need not be there. -/
def optionalText (outer : String) (members : Json.Members) (key : String) : Read (Option String) :=
  match Json.getMember? members key with
  | none => .ok none
  | some value => optionalTextAt (outer ++ key) value

/-- The members of an object under a key, none where there is none. -/
def optionalObject (outer expected : String) (members : Json.Members) (key : String) :
    Read Json.Members :=
  match Json.getMember? members key with
  | none => .ok []
  | some value => objectAt (outer ++ key) expected value

/-- The items of a list under a key, none where there is none. -/
def optionalList (outer : String) (members : Json.Members) (key : String) : Read (List Json) :=
  match Json.getMember? members key with
  | none => .ok []
  | some value => listAt (outer ++ key) value

/-- The kind of a node. -/
def readKind (members : Json.Members) : Read NodeKind :=
  match Json.getMember? members "kind" with
  | none => missing "nodes.kind"
  | some value => castKind value

/-- A coordinate, zero where there is none. -/
def coordinate (members : Json.Members) (key : String) : Read Double :=
  match Json.getMember? members key with
  | none => .ok .zero
  | some value => castReal value

/-- The title of a node, empty where there is none. -/
def readTitle (data : Json.Members) : Read String :=
  match Json.getMember? data "title" with
  | none => .ok ""
  | some value => textAt "nodes.data.title" value

/-! ### Records -/

/-- The records of values that all should be objects. -/
def buildAll {α : Type} (path expected : String) (build : Json.Members → Read α)
    (values : List Json) : Read (List α) :=
  values.mapM fun value => objectAt path expected value >>= build

/-- A position. -/
def buildPosition (members : Json.Members) : Read Position := do
  let x ← coordinate members "x"
  let y ← coordinate members "y"
  return { x, y }

/-- A choice. -/
def buildChoice (members : Json.Members) : Read Choice := do
  let id ← requiredText "nodes.data.choices." members "id"
  let text ← requiredText "nodes.data.choices." members "text"
  return { id, text }

/-- The choices of a node. -/
def buildChoices (data : Json.Members) : Read (List Choice) := do
  let items ← optionalList "nodes.data." data "choices"
  buildAll "nodes.data.choices" "DialogChoice" buildChoice items

/-- The node with an id, a kind and its data, without its position. -/
def buildData (id : String) (kind : NodeKind) (data : Json.Members) : Read Node := do
  let title ← readTitle data
  let content ← optionalText "nodes.data." data "content"
  let character ← optionalText "nodes.data." data "character"
  let choices ← buildChoices data
  let metadata ← optionalObject "nodes.data." "dict" data "metadata"
  return { id, kind, title, content, character, choices, metadata }

/-- A node. -/
def buildNode (members : Json.Members) : Read Node := do
  let id ← requiredText "nodes." members "id"
  let kind ← readKind members
  let node ← optionalObject "nodes." "DialogNodeData" members "data" >>= buildData id kind
  let position ← optionalObject "nodes." "Position" members "position" >>= buildPosition
  return { node with position }

/-- A connection. -/
def buildConnection (members : Json.Members) : Read Connection := do
  let id ← requiredText "connections." members "id"
  let source ← requiredText "connections." members "source"
  let target ← requiredText "connections." members "target"
  let sourceHandle ← optionalText "connections." members "source_handle"
  let targetHandle ← optionalText "connections." members "target_handle"
  return { id, source, target, sourceHandle, targetHandle }

/-- The nodes of a tree. -/
def buildNodes (members : Json.Members) : Read (List Node) := do
  let nodes ← optionalObject "" "dict" members "nodes"
  buildAll "nodes" "DialogNode" buildNode (nodes.map Prod.snd)

/-- The connections of a tree. -/
def buildConnections (members : Json.Members) : Read (List Connection) := do
  let items ← optionalList "" members "connections"
  buildAll "connections" "DialogConnection" buildConnection items

/-- A tree. -/
def buildTree (members : Json.Members) : Read Tree := do
  let id ← requiredText "" members "id"
  let name ← requiredText "" members "name"
  let description ← optionalText "" members "description"
  let nodes ← buildNodes members
  let connections ← buildConnections members
  let startNodeId ← optionalText "" members "start_node_id"
  return { id, name, description, nodes := .ofList nodes, connections, startNodeId }

/-- A character. -/
def buildCharacter (members : Json.Members) : Read Character := do
  let id ← requiredText "" members "id"
  let name ← requiredText "" members "name"
  let displayName ← optionalText "" members "display_name"
  let role ← optionalText "" members "role"
  let color ← optionalText "" members "color"
  return { id, name, displayName, role, color }

end Document

/-- The builder of the program. -/
def Builder.standard : Builder where
  tree := Document.buildTree
  character := Document.buildCharacter

/-- The reader of the program.  It reads JSON and bare words; what is laid out in blocks is
malformed to it. -/
def TextReader.standard : TextReader where
  read text := (Document.readText text).mapError fun
    | .malformed => .malformed
    | .word e => .broken (.scalar e)

namespace Document

/-- A tree, and the ids that came again, as the program reads them. -/
def readTree : Json → Except LoadError (Tree × List String) := Builder.standard.readTree

/-- All that a document holds for the program. -/
def load (document : Json) (name : Option (Setting String)) : Except LoadError TreeFile :=
  Builder.standard.load document name

/-- All that a file holds for the program. -/
def loadFile (path : String) (content : Content) (name : Option (Setting String)) :
    Except LoadError TreeFile :=
  Builder.standard.loadFile .standard path content name

/-- What the journal of the program says about loading a file. -/
def fileEvents (path : String) (content : Content) (name : Option (Setting String)) : List Event :=
  TextReader.standard.fileEvents path content name

end Document

end Colloquy
