import Colloquy.Proofs.Document.Entries
import Colloquy.Proofs.Document.Laws
import Colloquy.Proofs.Json.Lookup
import Colloquy.Proofs.Roster
import Colloquy.Proofs.Success

/-!
# Readings

The entries of a document with nothing but known keys.  A builder that ignores unknown keys loads
documents alike if the same is read of them, so it is enough to compare the readings.

* `dataReading`: what is read of the data of a node;
* `NodeEntry.reading`, `reading_object`, `reading_congr`: what is read of a node;
* `nodeReadings`, `connectionReadings`: what is read of the nodes and connections of a tree;
* `treeReading_eq`: what is read of a tree, made of what is read of its parts;
* `readTreeMembers_eq_of_readings`: what the loading of a tree depends on.
-/

namespace Colloquy.Document

open Json (getMember? renameMembers keep onMembers)

/-! ### Items -/

section Items

variable {members members' : Json.Members} {key : String}

theorem itemsUnder_congr (h : getMember? members key = getMember? members' key) :
    itemsUnder members key = itemsUnder members' key := by
  rw [itemsUnder, itemsUnder, filled?, filled?, h]

theorem nodeValues_congr (h : getMember? members "nodes" = getMember? members' "nodes") :
    nodeValues members = nodeValues members' := by
  rw [nodeValues, nodeValues, filled?, filled?, h]

/-- The values are objects exactly if those before and behind an object are. -/
theorem allMembers?_middle (before after : List Json) (object : Json.Members) :
    allMembers? (before ++ .object object :: after) =
      (allMembers? before).bind fun first =>
        (allMembers? after).map fun last => first ++ object :: last := by
  unfold allMembers?
  rw [List.mapM_append, List.mapM_cons]
  refine congrArg (Option.bind _) (funext fun first => ?_)
  generalize List.mapM (m := Option) _ after = last
  cases last <;> rfl

end Items

/-! ### Data -/

/-- What is read of the data of a node. -/
structure DataReading where
  /-- The members with known keys, the choices being given. -/
  members : List Json → Json.Members
  /-- The choices of a node with the given id. -/
  choices : String → Except LoadError (List Json)
  /-- The title as it stands in a message. -/
  shownTitle : Except NumberError String

def dataReading (data : Json.Members) : DataReading where
  members choices := knownData (dataEntry data choices)
  choices id := choiceEntries id data
  shownTitle := shown data "title"

section Data

variable {data data' : Json.Members}

theorem choiceEntries_eq (id : String) (data : Json.Members) :
    choiceEntries id data =
      match (itemsUnder data "choices").map fun items =>
        (allMembers? items).map (List.mapM choiceEntry) with
      | .error b => .error (.broken b)
      | .ok none => .error (.refused (.choicesNotMappings id))
      | .ok (some entries) => entries := by
  unfold choiceEntries
  cases itemsUnder data "choices" with
  | error b => rfl
  | ok items =>
    dsimp only [Except.map]
    cases allMembers? items <;> rfl

theorem dataReading_congr (content : contentOf data = contentOf data')
    (choices : ∀ id, choiceEntries id data = choiceEntries id data')
    (others : ∀ key ∈ ["title", "character", "metadata"],
      getMember? data key = getMember? data' key) : dataReading data = dataReading data' := by
  have hmembers (entries : List Json) :
      knownData (dataEntry data entries) = knownData (dataEntry data' entries) := by
    apply Json.keep_congr
    · intro key hkey
      by_cases hcontent : key = "content"
      · rw [hcontent, getMember?_content, getMember?_content, content]
      · rw [getMember?_dataEntry _ (by grind), getMember?_dataEntry _ (by grind),
          others key (by grind)]
    · rw [List.forall_mem_singleton, getMember?_choices, getMember?_choices]
  simp only [dataReading, hmembers, choices, shown, others "title" (by simp)]

theorem contentOf_congr (same : ∀ key ∈ ["content", "condition", "action"],
    getMember? data key = getMember? data' key) : contentOf data = contentOf data' := by
  simp only [List.forall_mem_cons] at same
  obtain ⟨hcontent, hcondition, haction, -⟩ := same
  simp only [contentOf, filled?, hcontent, hcondition, haction]

theorem choiceEntries_congr (same : getMember? data "choices" = getMember? data' "choices")
    (id : String) : choiceEntries id data = choiceEntries id data' := by
  rw [choiceEntries, choiceEntries, itemsUnder_congr same]

end Data

/-! ### Nodes -/

section Node

variable {given given' members members' : Json.Members}

/-- The entry of a node with nothing but known keys. -/
def NodeEntry.known (entry : NodeEntry) : NodeEntry :=
  { entry with members := knownNode entry.members }

/-- What is read of a value that should be a node. -/
def NodeEntry.reading (value : Json) : Except LoadError NodeEntry := (ofJson value).map known

theorem dataOf_object {data : Json.Members} (h : getMember? members "data" = some (.object data)) :
    dataOf members = .ok data := by
  unfold dataOf
  cases data with
  | nil => rw [filled?_eq_none_iff.mpr (by rw [h]; rintro _ ⟨⟩; rfl)]
  | cons => rw [filled?_eq_some_iff.mpr ⟨h, rfl⟩]

theorem dataOf_congr (hid : getMember? members "id" = getMember? members' "id")
    (hdata : getMember? members "data" = getMember? members' "data") :
    dataOf members = dataOf members' := by
  simp only [dataOf, filled?, shown, hid, hdata]

/-- The position of a node with nothing but known keys. -/
def knownPositionOf (members : Json.Members) : Option Json :=
  (getMember? members "position").map (onMembers knownPosition)

/-- The members of a node with an id, a kind and a position, its data having known keys. -/
def nodeFields (id : String) (kind position : Option Json) (data : Json.Members) : Json.Members :=
  [("id", .text id)] ++ (kind.map (Prod.mk "kind")).toList ++ [("data", .object data)] ++
    (position.map (Prod.mk "position")).toList

theorem known_ofParts (id : String) (members data : Json.Members) :
    (NodeEntry.ofParts id members data).known =
      ⟨id, nodeFields id (getMember? members "kind") (knownPositionOf members)
        (knownData data)⟩ := by
  have hother (key : String) (hkey : key ∈ ["kind", "position"]) :
      getMember? (NodeEntry.ofParts id members data).members key = getMember? members key :=
    getMember?_ofParts id (by grind)
  have hmembers : knownNode (NodeEntry.ofParts id members data).members =
      nodeFields id (getMember? members "kind") (knownPositionOf members) (knownData data) := by
    simp only [knownNode, keep, Json.keepFields, List.map_cons, List.map_nil, List.cons_append,
      List.nil_append, List.filterMap_cons, List.filterMap_nil, getMember?_id, getMember?_data,
      hother "kind" (by simp), hother "position" (by simp), nodeFields, knownPositionOf]
    cases getMember? members "kind" <;> cases getMember? members "position" <;> rfl
  exact congrArg (NodeEntry.mk id) hmembers

/-- What is read of a node, told from what is read of its data. -/
def nodeReading (members : Json.Members) (data : DataReading) : Except LoadError NodeEntry :=
  match getMember? members "id" with
  | none | some .null => .error (.naming data.shownTitle .nodeWithoutId)
  | some value => do
    let id ← idOf value
    let choices ← data.choices id
    return {
      id
      members := nodeFields id (getMember? members "kind") (knownPositionOf members)
        (data.members choices) }

theorem reading_object (given : Json.Members) :
    NodeEntry.reading (.object given) =
      (dataOf (renameMembers nodeKey given)).map dataReading >>=
        nodeReading (renameMembers nodeKey given) := by
  simp only [NodeEntry.reading, NodeEntry.ofJson, NodeEntry.ofMembers]
  generalize renameMembers nodeKey given = members
  cases dataOf members with
  | error e => rfl
  | ok data =>
    simp only [bind, Except.bind, Except.map, nodeReading, dataReading]
    cases getMember? members "id" with
    | none => rfl
    | some value =>
      cases value with
      | null => rfl
      | flag | integer | real | text | list | object =>
        dsimp only
        generalize idOf _ = id
        cases id with
        | error e => rfl
        | ok id =>
          dsimp only
          cases choiceEntries id data with
          | error e => rfl
          | ok choices => exact congrArg Except.ok (known_ofParts id members _)

/-- What is read of a node depends on what is read of its data, on its position and on the values of
its other fields. -/
theorem reading_congr
    (fields : ∀ key ∈ ["id", "kind"],
      getMember? (renameMembers nodeKey given) key = getMember? (renameMembers nodeKey given') key)
    (position : knownPositionOf (renameMembers nodeKey given) =
      knownPositionOf (renameMembers nodeKey given'))
    (data : (dataOf (renameMembers nodeKey given)).map dataReading =
      (dataOf (renameMembers nodeKey given')).map dataReading) :
    NodeEntry.reading (.object given) = NodeEntry.reading (.object given') := by
  simp only [List.forall_mem_cons] at fields
  obtain ⟨hid, hkind, -⟩ := fields
  have hnode : nodeReading (renameMembers nodeKey given) =
      nodeReading (renameMembers nodeKey given') := by
    funext data
    simp only [nodeReading, hid, hkind, position]
  rw [reading_object, reading_object, data, hnode]

end Node

/-! ### Trees -/

section Tree

variable {given given' members members' : Json.Members}

/-- What is read of the nodes of a tree. -/
def nodeReadings (members : Json.Members) : Except LoadError (List NodeEntry) := do
  let values ← (nodeValues members).mapError .broken
  values.mapM NodeEntry.reading

/-- The members of a connection with known keys. -/
def connectionReading (connection : Json.Members) : Json.Members :=
  knownConnection (renameMembers connectionKey connection)

/-- What is read of the connections of a tree. -/
def connectionReadings (members : Json.Members) : Except LoadError (List Json.Members) :=
  (connectionMembers members).map (List.map connectionReading)

/-- What is read of a tree. -/
def treeReading (given : Json.Members) : Except LoadError TreeEntry :=
  (treeEntry given).map fun entry => { entry with members := knownTree entry.members }

/-- The entry of a tree with nothing but known keys, made of what is read of its parts. -/
def assembleTree (members : Json.Members) (nodes : List NodeEntry)
    (connections : List Json.Members) : TreeEntry where
  members := keep ["id", "name", "description", "start_node_id"] [] members ++
    [("nodes", .object ((mergeEntries nodes).toList.map fun entry =>
      (entry.id, .object entry.members))), ("connections", .list (connections.map .object))]
  repeated := repeatedIds [] (nodes.map NodeEntry.id)

theorem knownTree_treeMembers (members : Json.Members) (entries : List NodeEntry)
    (connections : List Json.Members) :
    knownTree (treeMembers members entries connections) =
      (assembleTree members (entries.map NodeEntry.known)
        (connections.map connectionReading)).members := by
  have hmerged : (mergeEntries (entries.map NodeEntry.known)).toList =
      (mergeEntries entries).toList.map NodeEntry.known :=
    Roster.toList_ofList_map (fun _ => rfl) entries
  have hplain : keep ["id", "name", "description", "start_node_id"] []
      (treeMembers members entries connections) =
        keep ["id", "name", "description", "start_node_id"] [] members :=
    Json.keep_congr (fun key hkey => getMember?_treeMembers _ _ (by grind))
      (List.forall_mem_nil _)
  rw [assembleTree, hmerged, ← hplain, List.map_map, List.map_map]
  simp only [knownTree, keep, Json.keepFields, List.filterMap_append, List.filterMap_cons,
    List.filterMap_nil, List.append_nil, getMember?_nodes, getMember?_connections, Option.map_some,
    Json.onValues, Json.onItems, List.map_map]
  rfl

theorem treeReading_eq (given : Json.Members) :
    treeReading given = (do
      let nodes ← nodeReadings (renameMembers treeKey given)
      let connections ← connectionReadings (renameMembers treeKey given)
      return assembleTree (renameMembers treeKey given) nodes connections) := by
  simp only [treeReading, treeEntry, nodeReadings, connectionReadings]
  generalize renameMembers treeKey given = members
  cases nodeValues members with
  | error b => rfl
  | ok values =>
    have hreadings : values.mapM NodeEntry.reading =
        (values.mapM NodeEntry.ofJson).map (List.map NodeEntry.known) := mapM_map_eq _ _ values
    simp only [Except.mapError, bind, Except.bind, hreadings]
    cases values.mapM NodeEntry.ofJson with
    | error e => rfl
    | ok entries =>
      cases connectionMembers members with
      | error e => rfl
      | ok connections =>
        simp only [Except.map, pure, Except.pure, knownTree_treeMembers]
        simp only [assembleTree, List.map_map]
        rfl

theorem nodeReadings_congr (h : nodeValues members = nodeValues members') :
    nodeReadings members = nodeReadings members' := by
  rw [nodeReadings, nodeReadings, h]

theorem connectionReadings_congr
    (h : getMember? members "connections" = getMember? members' "connections") :
    connectionReadings members = connectionReadings members' := by
  rw [connectionReadings, connectionReadings, connectionMembers, connectionMembers,
    itemsUnder_congr h]

theorem connectionReadings_eq (members : Json.Members) :
    connectionReadings members =
      match (itemsUnder members "connections").map fun items =>
        (allMembers? items).map (List.map connectionReading) with
      | .error b => .error (.broken b)
      | .ok none => .error (.refused .connectionsNotMappings)
      | .ok (some connections) => .ok connections := by
  unfold connectionReadings connectionMembers
  cases itemsUnder members "connections" with
  | error b => rfl
  | ok items =>
    dsimp only [Except.map]
    cases allMembers? items <;> rfl

end Tree

/-! ### Builders -/

section Builder

variable {builder : Builder} {given given' members members' : Json.Members}

theorem schemaError_congr (h : getMember? given "name" = getMember? given' "name") :
    schemaError given = schemaError given' := by
  have hmismatch : mismatch given = mismatch given' := by
    funext wording
    rw [mismatch, mismatch, h]
  funext error
  cases error with
  | unfit | invalid => rw [schemaError, schemaError, hmismatch]
  | broken => rfl

/-- What a builder that ignores unknown keys makes of a tree, it makes of what is read of the
tree. -/
theorem readTreeMembers_eq_bind_treeReading (ignores : builder.IgnoresUnknown)
    (given : Json.Members) :
    builder.readTreeMembers given = (do
      let entry ← treeReading given
      let tree ← (builder.tree entry.members).mapError (schemaError given)
      return (tree, entry.repeated)) := by
  rw [Builder.readTreeMembers, treeReading]
  cases treeEntry given with
  | error e => rfl
  | ok entry =>
    simp only [Except.map, bind, Except.bind, ignores.tree]

/-- The loading of a tree depends on what is read of its nodes and its connections and on the values
of its other fields.  Its name comes also in the spelling of the document, for a message. -/
theorem readTreeMembers_eq_of_readings (ignores : builder.IgnoresUnknown)
    (nodes : nodeReadings (renameMembers treeKey given) =
      nodeReadings (renameMembers treeKey given'))
    (connections : connectionReadings (renameMembers treeKey given) =
      connectionReadings (renameMembers treeKey given'))
    (fields : ∀ key ∈ ["id", "name", "description", "start_node_id"],
      getMember? (renameMembers treeKey given) key = getMember? (renameMembers treeKey given') key)
    (named : getMember? given "name" = getMember? given' "name") :
    builder.readTreeMembers given = builder.readTreeMembers given' := by
  have htree : assembleTree (renameMembers treeKey given) =
      assembleTree (renameMembers treeKey given') := by
    funext nodes connections
    rw [assembleTree, assembleTree, Json.keep_congr fields (List.forall_mem_nil _)]
  rw [readTreeMembers_eq_bind_treeReading ignores, readTreeMembers_eq_bind_treeReading ignores,
    treeReading_eq, treeReading_eq, nodes, connections, htree, schemaError_congr named]

theorem readCharacters_congr (builder : Builder)
    (h : getMember? members "characters" = getMember? members' "characters") :
    builder.readCharacters members = builder.readCharacters members' := by
  rw [Builder.readCharacters, Builder.readCharacters, itemsUnder_congr h]

end Builder

end Colloquy.Document
