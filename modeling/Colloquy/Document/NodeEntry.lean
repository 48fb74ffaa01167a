import Colloquy.Document.Items

/-!
# Node entries

A node of a document before its record is built: keys have their one spelling, the id is a text, the
content is in one place, and the choices are objects with an id and a text.

* `nodeKey`: the spellings of keys;
* `contentOf`: the content, or the condition or action of documents that keep these apart;
* `NodeEntry`, `NodeEntry.ofJson`;
* `repeatedIds`: the ids that come again.
-/

namespace Colloquy

namespace Document

/-- The one spelling of a key of a node. -/
def nodeKey (key : String) : String := if key = "type" then "kind" else key

/-- A node before its record is built: its id and its members. -/
structure NodeEntry where
  id : String
  members : Json.Members

/-- The content of a node; void content gives way to a condition, and a void condition to an
action. -/
def contentOf (data : Json.Members) : Json :=
  match filled? data "content" with
  | some value => value
  | none =>
    match filled? data "condition" with
    | some value => value
    | none => (Json.getMember? data "action").getD .null

/-- The id that a value gives, unless it cannot be written. -/
def idOf (value : Json) : Except LoadError String :=
  value.display.mapError fun e => .broken (.number e)

/-- A choice with its id as a text; a void text is empty. -/
def choiceEntry (members : Json.Members) : Except LoadError Json :=
  (idOf ((Json.getMember? members "id").getD .null)).map fun id =>
    .object [("id", .text id), ("text", (filled? members "text").getD (.text ""))]

/-- The choices of a node with the given id. -/
def choiceEntries (id : String) (data : Json.Members) : Except LoadError (List Json) :=
  match itemsUnder data "choices" with
  | .error b => .error (.broken b)
  | .ok items =>
    match allMembers? items with
    | some choices => choices.mapM choiceEntry
    | none => .error (.refused (.choicesNotMappings id))

/-- The value under a key as it stands in a message, a question mark where there is none. -/
def shown (members : Json.Members) (key : String) : Except NumberError String :=
  ((Json.getMember? members key).map Json.display).getD (.ok "?")

/-- The data of a node; void data is empty. -/
def dataOf (members : Json.Members) : Except LoadError Json.Members :=
  match filled? members "data" with
  | none => .ok []
  | some (.object data) => .ok data
  | some _ => .error (.naming (shown members "id") .nodeDataNotMapping)

/-- The data with its content in one place and with the given choices. -/
def dataEntry (data : Json.Members) (choices : List Json) : Json.Members :=
  Json.putMember "choices" (.list choices) (Json.putMember "content" (contentOf data) data)

namespace NodeEntry

/-- The entry with an id, the other members of a node and its data. -/
def ofParts (id : String) (members data : Json.Members) : NodeEntry where
  id
  members := Json.putMember "data" (.object data) (Json.putMember "id" (.text id) members)

/-- The entry of an object. -/
def ofMembers (given : Json.Members) : Except LoadError NodeEntry := do
  let members := Json.renameMembers nodeKey given
  let data ← dataOf members
  match Json.getMember? members "id" with
  | none | some .null => .error (.naming (shown data "title") .nodeWithoutId)
  | some value =>
    let id ← idOf value
    let choices ← choiceEntries id data
    return ofParts id members (dataEntry data choices)

/-- The entry of a value that should be a node. -/
def ofJson : Json → Except LoadError NodeEntry
  | .object members => ofMembers members
  | _ => .error (.refused .nodeNotMapping)

end NodeEntry

/-- The ids that an earlier id in the list equals, in order. -/
def repeatedIds (seen : List String) : List String → List String
  | [] => []
  | id :: rest =>
    if seen.contains id then id :: repeatedIds seen rest else repeatedIds (id :: seen) rest

end Document

end Colloquy
