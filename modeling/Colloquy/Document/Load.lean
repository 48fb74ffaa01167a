import Colloquy.Document.Builder
import Colloquy.Document.NodeEntry
import Colloquy.Journal
import Colloquy.Setting

/-!
# Loading

A document is a tree, an object with a tree, or a project with several trees; in each case it can
come with characters.

* `treeKey`, `connectionKey`, `characterKey`: the spellings of keys;
* `TreeEntry`, `treeEntry`: a tree before its record is built, with the ids that came again;
* `selectTree`, `treeOf`: the tree of a document;
* `Builder.readTree`, `Builder.readCharacter`: what a builder makes of them;
* `TreeFile`, `Builder.load`: all that a document holds;
* `events`: what the journal says about loading it.

Of several nodes with one id the last one is kept, in the place of the first.
-/

namespace Colloquy

namespace Document

/-- The one spelling of a key of a tree. -/
def treeKey (key : String) : String := if key = "startNodeId" then "start_node_id" else key

/-- The one spelling of a key of a connection. -/
def connectionKey (key : String) : String :=
  if key = "sourceHandle" then "source_handle"
  else if key = "targetHandle" then "target_handle"
  else key

/-- The one spelling of a key of a character. -/
def characterKey (key : String) : String := if key = "displayName" then "display_name" else key

/-- The values that should be the nodes of a tree: the items of a list or the values of an
object. -/
def nodeValues (members : Json.Members) : Except Breakdown (List Json) :=
  match filled? members "nodes" with
  | none => .ok []
  | some (.object nodes) => .ok (nodes.map (·.2))
  | some value => elements value

/-- The entries with the last of those with one id in the place of the first. -/
def mergeEntries (entries : List NodeEntry) : Roster NodeEntry.id := .ofList entries

/-- The members of the connections of a tree. -/
def connectionMembers (members : Json.Members) : Except LoadError (List Json.Members) :=
  match itemsUnder members "connections" with
  | .error b => .error (.broken b)
  | .ok items =>
    match allMembers? items with
    | some connections => .ok connections
    | none => .error (.refused .connectionsNotMappings)

/-- The members of a tree as its record is built of them, and the ids of nodes that came again. -/
structure TreeEntry where
  members : Json.Members
  repeated : List String

/-- The members of a tree with its nodes under their ids and with its connections. -/
def treeMembers (members : Json.Members) (entries : List NodeEntry)
    (connections : List Json.Members) : Json.Members :=
  Json.putMember "connections"
    (.list (connections.map fun connection =>
      .object (Json.renameMembers connectionKey connection)))
    (Json.putMember "nodes"
      (.object ((mergeEntries entries).toList.map fun entry => (entry.id, .object entry.members)))
      members)

/-- The entry of a tree. -/
def treeEntry (given : Json.Members) : Except LoadError TreeEntry := do
  let members := Json.renameMembers treeKey given
  let values ← (nodeValues members).mapError .broken
  let entries ← values.mapM NodeEntry.ofJson
  let connections ← connectionMembers members
  return {
    members := treeMembers members entries connections
    repeated := repeatedIds [] (entries.map NodeEntry.id) }

/-- The load error of a tree with a field that does not fit. -/
def mismatch (given : Json.Members) (wording : Except NumberError String) : LoadError :=
  .naming (do
    let tree ← ((Json.getMember? given "name").getD .null).display
    let reason ← wording
    return (tree, reason)) fun named => .schema named.1 named.2

/-- The load error of a tree that is not built. -/
def schemaError (given : Json.Members) : BuildError → LoadError
  | .unfit wording => mismatch given wording
  | .invalid wording => mismatch given (.ok wording)
  | .broken b => .broken b

/-- The load error of a character that is not built. -/
def characterError : BuildError → LoadError
  | .unfit wording => .naming wording .character
  | .invalid wording => .broken (.invalid wording)
  | .broken b => .broken b

/-- Whether a value is an object with the given name.  A name without a value is an empty list. -/
def isNamed (name : Setting String) (value : Json) : Bool :=
  match value.get? "name", name with
  | some (.text s), .value wanted => s == wanted
  | some (.list items), .empty => items.isEmpty
  | _, _ => false

/-- The name of an object, if the value is one. -/
def nameIn? : Json → Option Json
  | .object members => some ((Json.getMember? members "name").getD .null)
  | _ => none

/-- The tree of a project: the first one, or the first one with the given name. -/
def selectTree (trees : Json) (name : Option (Setting String)) : Except LoadError Json :=
  match trees with
  | .list (first :: rest) =>
    match name with
    | none => .ok first
    | some wanted =>
      match (first :: rest).find? (isNamed wanted) with
      | some tree => .ok tree
      | none =>
        .error (.naming (((first :: rest).filterMap nameIn?).mapM Json.display)
          (.noTreeNamed (wanted.text id)))
  | _ => .error (.refused .noTrees)

/-- The tree of a document. -/
def treeOf (members : Json.Members) (name : Option (Setting String)) : Except LoadError Json :=
  match Json.getMember? members "tree" with
  | some tree => .ok tree
  | none =>
    match Json.getMember? members "dialogTrees" with
    | some trees => selectTree trees name
    | none =>
      if (Json.getMember? members "nodes").isSome then .ok (.object members)
      else .error (.refused .noTree)

end Document

/-- All that a document holds. -/
structure TreeFile where
  tree : Tree
  characters : List Character := []
  /-- The ids of nodes that came again. -/
  repeated : List String := []

/-- The advice about loading. -/
def TreeFile.issues (file : TreeFile) : List String :=
  file.repeated.map fun id =>
    "Duplicate node id '" ++ id ++ "'. Only the last definition was kept."

/-! ### Builders -/

namespace Builder

open Document

variable (builder : Builder)

/-- A tree from the members of an object, and the ids that came again. -/
def readTreeMembers (given : Json.Members) : Except LoadError (Tree × List String) := do
  let entry ← treeEntry given
  let tree ← (builder.tree entry.members).mapError (schemaError given)
  return (tree, entry.repeated)

/-- A tree, and the ids that came again. -/
def readTree : Json → Except LoadError (Tree × List String)
  | .object members => builder.readTreeMembers members
  | _ => .error (.refused .treeNotMapping)

/-- A character. -/
def readCharacter : Json → Except LoadError Character
  | .object members =>
    (builder.character (Json.renameMembers characterKey members)).mapError characterError
  | value =>
    .error (.refused (.character ("'" ++ value.kindName ++ "' object has no attribute 'items'")))

/-- The characters of a document. -/
def readCharacters (members : Json.Members) : Except LoadError (List Character) := do
  let values ← (itemsUnder members "characters").mapError .broken
  values.mapM builder.readCharacter

/-- All that the members of a document hold. -/
def loadMembers (members : Json.Members) (name : Option (Setting String)) :
    Except LoadError TreeFile := do
  let value ← treeOf members name
  let (tree, repeated) ← builder.readTree value
  let characters ← builder.readCharacters members
  return { tree, characters, repeated }

/-- All that a document holds. -/
def load (document : Json) (name : Option (Setting String)) : Except LoadError TreeFile :=
  match document with
  | .object members => builder.loadMembers members name
  | _ => .error (.refused .documentNotMapping)

end Builder

namespace Document

/-! ### The journal of loading -/

/-- The node entries from the first on, as far as they can be read. -/
def readableEntries : List Json → List NodeEntry
  | [] => []
  | value :: rest =>
    match NodeEntry.ofJson value with
    | .ok entry => entry :: readableEntries rest
    | .error _ => []

/-- What the journal says about reading a tree. -/
def treeEvents : Json → List Event
  | .object given =>
    match nodeValues (Json.renameMembers treeKey given) with
    | .ok values =>
      (repeatedIds [] ((readableEntries values).map NodeEntry.id)).map .nodeRepeated
    | .error _ => []
  | _ => []

/-- What the journal says about loading a document, whether it can be loaded or not. -/
def events (document : Json) (name : Option (Setting String)) : List Event :=
  match document with
  | .object members =>
    match treeOf members name with
    | .ok tree => treeEvents tree
    | .error _ => []
  | _ => []

end Document

end Colloquy
