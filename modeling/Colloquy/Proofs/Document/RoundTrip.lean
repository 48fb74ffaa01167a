import Colloquy.Proofs.Document.Entries
import Colloquy.Proofs.Document.Standard
import Colloquy.Proofs.Json.Lookup

/-!
# Trees that are written and loaded

A tree and characters that are written as a document are loaded as they were, if all records are
built that can be.  Only an empty content comes back as none, and both are shown as the same text.

* `Choice.WrittenAs`, `Node.WrittenAs`, `Connection.WrittenAs`, `Tree.WrittenAs`,
  `Character.WrittenAs`: what is written, with the fields in any order and the keys in any spelling;
* `Node.reloaded`, `Tree.reloaded`: what is loaded then;
* `Tree.exists_writtenAs`: every tree can be written;
* `load_writtenAs`: what is written is loaded.
-/

namespace Colloquy

open Json (Spells orNull)

/-! ### Written parts -/

/-- The fields of a choice. -/
def Choice.fields (choice : Choice) : Json.Members :=
  [("id", .text choice.id), ("text", .text choice.text)]

/-- The fields of a position. -/
def Position.fields (position : Position) : Json.Members :=
  [("x", .real position.x), ("y", .real position.y)]

/-- The fields of the data of a node. -/
def Node.dataFields (node : Node) (choices : List Json.Members) : Json.Members :=
  [("title", .text node.title), ("content", orNull node.content),
    ("character", orNull node.character), ("choices", .list (choices.map .object)),
    ("metadata", .object node.metadata)]

/-- The fields of a node. -/
def Node.fields (node : Node) (data position : Json.Members) : Json.Members :=
  [("id", .text node.id), ("kind", .text node.kind.name), ("data", .object data),
    ("position", .object position)]

/-- The fields of a connection. -/
def Connection.fields (connection : Connection) : Json.Members :=
  [("id", .text connection.id), ("source", .text connection.source),
    ("target", .text connection.target), ("source_handle", orNull connection.sourceHandle),
    ("target_handle", orNull connection.targetHandle)]

/-- The fields of a tree. -/
def Tree.fields (tree : Tree) (nodes connections : List Json.Members) : Json.Members :=
  [("id", .text tree.id), ("name", .text tree.name), ("description", orNull tree.description),
    ("nodes", .list (nodes.map .object)), ("connections", .list (connections.map .object)),
    ("start_node_id", orNull tree.startNodeId)]

/-- The fields of a character. -/
def Character.fields (character : Character) : Json.Members :=
  [("id", .text character.id), ("name", .text character.name),
    ("display_name", orNull character.displayName), ("role", orNull character.role),
    ("color", orNull character.color)]

/-- A choice is written as an object. -/
def Choice.WrittenAs (choice : Choice) (members : Json.Members) : Prop :=
  members.Perm choice.fields

/-- A node is written as an object. -/
inductive Node.WrittenAs (node : Node) (members : Json.Members) : Prop
  | intro (choices : List Json.Members) (data position : Json.Members)
      (hchoices : List.Forall₂ Choice.WrittenAs node.choices choices)
      (hdata : data.Perm (node.dataFields choices))
      (hposition : position.Perm node.position.fields)
      (hnode : Spells Document.nodeKey members (node.fields data position))

/-- A connection is written as an object. -/
def Connection.WrittenAs (connection : Connection) (members : Json.Members) : Prop :=
  Spells Document.connectionKey members connection.fields

/-- A tree is written as an object, its nodes in order. -/
inductive Tree.WrittenAs (tree : Tree) (members : Json.Members) : Prop
  | intro (nodes connections : List Json.Members)
      (hnodes : List.Forall₂ Node.WrittenAs tree.nodes.toList nodes)
      (hconnections : List.Forall₂ Connection.WrittenAs tree.connections connections)
      (htree : Spells Document.treeKey members (tree.fields nodes connections))

/-- A character is written as an object. -/
def Character.WrittenAs (character : Character) (members : Json.Members) : Prop :=
  Spells Document.characterKey members character.fields

theorem Choice.writtenAs_fields (choice : Choice) : choice.WrittenAs choice.fields := .refl _

theorem Connection.writtenAs_fields (connection : Connection) :
    connection.WrittenAs connection.fields :=
  Json.spells_self (by simp [Connection.fields, Document.connectionKey])

theorem Character.writtenAs_fields (character : Character) :
    character.WrittenAs character.fields :=
  Json.spells_self (by simp [Character.fields, Document.characterKey])

theorem Node.exists_writtenAs (node : Node) : ∃ members, node.WrittenAs members := by
  have hchoices : List.Forall₂ Choice.WrittenAs node.choices (node.choices.map Choice.fields) :=
    forall₂_map_self fun choice _ => choice.writtenAs_fields
  exact ⟨_, .intro _ _ _ hchoices (.refl _) (.refl _)
    (Json.spells_self (by simp [Node.fields, Document.nodeKey]))⟩

/-- Every tree can be written. -/
theorem Tree.exists_writtenAs (tree : Tree) : ∃ members, tree.WrittenAs members := by
  choose written hwritten using Node.exists_writtenAs
  have hnodes : List.Forall₂ Node.WrittenAs tree.nodes.toList (tree.nodes.toList.map written) :=
    forall₂_map_self fun node _ => hwritten node
  have hconnections : List.Forall₂ Connection.WrittenAs tree.connections
      (tree.connections.map Connection.fields) :=
    forall₂_map_self fun connection _ => connection.writtenAs_fields
  exact ⟨_, .intro _ _ hnodes hconnections
    (Json.spells_self (by simp [Tree.fields, Document.treeKey]))⟩

/-! ### Loaded parts -/

/-- A node as it is loaded after it was written: an empty content has become none. -/
def Node.reloaded (node : Node) : Node := { node with content := nonempty? node.content }

/-- A tree as it is loaded after it was written. -/
def Tree.reloaded (tree : Tree) : Tree :=
  { tree with
    nodes := ⟨tree.nodes.toList.map Node.reloaded, by
      rw [List.map_map]
      exact tree.nodes.distinct⟩ }

/-- The content is the same text. -/
theorem Node.body_reloaded (node : Node) : node.reloaded.body = node.body := by
  unfold Node.body Node.reloaded
  cases node.content with
  | none => rfl
  | some s =>
    by_cases h : s = ""
    · rw [h]
      rfl
    · rw [(nonempty?_eq_some_iff).mpr ⟨rfl, h⟩]

namespace Document

section Parts

variable {members data : Json.Members} {key : String} {items : List Json}

/-- A text is read as it is, also if it is empty and passed over. -/
theorem filled?_text {s : String} (h : Json.getMember? members key = some (.text s)) :
    (filled? members key).getD (.text "") = .text s := by
  by_cases hs : s = ""
  · rw [filled?_eq_none_iff.mpr (by rw [h]; rintro _ ⟨⟩; simp [hs, Json.isVoid]), hs]
    rfl
  · rw [filled?_eq_some_iff.mpr ⟨h, by simpa [Json.isVoid] using hs⟩]
    rfl

theorem choiceEntry_writtenAs {choice : Choice} (h : choice.WrittenAs members) :
    choiceEntry members = .ok (.object choice.fields) := by
  have hfield := Json.getMember?_of_perm h (by simp [Choice.fields])
  have hid : Json.getMember? members "id" = some (.text choice.id) := hfield "id"
  have htext : Json.getMember? members "text" = some (.text choice.text) := hfield "text"
  rw [choiceEntry, filled?_text htext, hid]
  rfl

theorem choiceEntries_writtenAs {choices : List Choice} {objects : List Json.Members} (id : String)
    (h : Json.getMember? data "choices" = some (.list (objects.map .object)))
    (hchoices : List.Forall₂ Choice.WrittenAs choices objects) :
    choiceEntries id data = .ok (choices.map fun choice => .object choice.fields) := by
  rw [choiceEntries, itemsUnder_list h]
  dsimp only
  rw [allMembers?_eq_some_iff.mpr rfl]
  dsimp only
  rw [mapM_eq_ok_iff, List.forall₂_map_right_iff]
  exact hchoices.flip.imp fun _ _ => choiceEntry_writtenAs

theorem isVoid_orNull_iff {text : Option String} :
    (orNull text).isVoid = true ↔ nonempty? text = none := by
  cases text with
  | none => simp [orNull, Json.isVoid]
  | some s => simp [orNull, Json.isVoid, nonempty?, Option.filter]

/-- Where the content is empty there is neither a condition nor an action to take its place. -/
theorem contentOf_writtenAs {content : Option String}
    (hcontent : Json.getMember? data "content" = some (orNull content))
    (hcondition : Json.getMember? data "condition" = none)
    (haction : Json.getMember? data "action" = none) :
    contentOf data = orNull (nonempty? content) := by
  unfold contentOf
  cases h : nonempty? content with
  | none =>
    have hvoid : filled? data "content" = none := filled?_eq_none_iff.mpr (by
      rw [hcontent]
      rintro _ ⟨⟩
      exact isVoid_orNull_iff.mpr h)
    have hnone : filled? data "condition" = none := filled?_eq_none_iff.mpr (by
      rw [hcondition]
      nofun)
    rw [hvoid, hnone, haction]
    rfl
  | some s =>
    obtain ⟨rfl, hs⟩ := nonempty?_eq_some_iff.mp h
    have hfilled : filled? data "content" = some (.text s) :=
      filled?_eq_some_iff.mpr ⟨hcontent, by simpa [Json.isVoid] using hs⟩
    rw [hfilled]
    rfl

end Parts

/-! ### Reading what is written -/

section Reading

variable {members : Json.Members} {objects : List Json.Members} {builder : Builder}

theorem Position.isRecordOf_fields {position : Position} (h : members.Perm position.fields) :
    position.IsRecordOf members := by
  have hfield := Json.getMember?_of_perm h (by simp [Position.fields])
  constructor
  · rw [Json.IsCoordinate, hfield]
    rfl
  · rw [Json.IsCoordinate, hfield]
    rfl

theorem records_map_fields (choices : List Choice) :
    Json.Records Choice.IsRecordOf (choices.map fun choice => .object choice.fields) choices :=
  List.forall₂_map_left_iff.mpr (List.forall₂_same.mpr fun choice _ =>
    ⟨choice.fields, rfl, rfl, rfl⟩)

/-- The data of a written node, with the content in one place. -/
theorem hasData_writtenAs {node : Node} {choices : List Json.Members} {data : Json.Members}
    (h : data.Perm (node.dataFields choices)) :
    node.reloaded.HasData
      (dataEntry data (node.choices.map fun choice => .object choice.fields)) := by
  have hfield := Json.getMember?_of_perm h (by simp [Node.dataFields])
  have hcontent := contentOf_writtenAs (hfield "content") (hfield "condition") (hfield "action")
  refine {
    title := ?_
    content := by rw [getMember?_content, Option.getD_some, hcontent]; rfl
    character := ?_
    choices := ⟨_, by rw [getMember?_choices, Option.getD_some], records_map_fields node.choices⟩
    metadata := ?_ } <;>
  · rw [getMember?_dataEntry _ (by decide), hfield]
    rfl

/-- A written node gives an entry with its id, and the node is made of the entry. -/
theorem exists_entry_of_writtenAs {node : Node} (h : node.WrittenAs members) :
    ∃ entry, NodeEntry.ofJson (.object members) = .ok entry ∧ node.id = entry.id ∧
      node.reloaded.IsRecordOf entry.members := by
  obtain ⟨choices, data, position, hchoices, hdata, hposition, hnode⟩ := h
  have hfield := hnode.getMember? (by simp [Node.fields])
  have hdataField := Json.getMember?_of_perm hdata (by simp [Node.dataFields])
  have hdataOf : dataOf (Json.renameMembers nodeKey members) = .ok data := by
    have hfilled : filled? (Json.renameMembers nodeKey members) "data" = some (.object data) :=
      filled?_eq_some_iff.mpr ⟨hfield "data", hdata.isEmpty_eq⟩
    rw [dataOf, hfilled]
  refine ⟨.ofParts node.id (Json.renameMembers nodeKey members)
    (dataEntry data (node.choices.map fun choice => .object choice.fields)), ?_, rfl, ?_⟩
  · have hid : Json.getMember? (Json.renameMembers nodeKey members) "id" = some (.text node.id) :=
      hfield "id"
    simp only [NodeEntry.ofJson, NodeEntry.ofMembers, bind_eq_ok_iff, hid]
    exact ⟨data, hdataOf, node.id, rfl, _,
      choiceEntries_writtenAs node.id (hdataField "choices") hchoices, rfl⟩
  · exact {
      id := getMember?_id _ _ _
      kind := by
        rw [getMember?_ofParts _ (by decide), hfield]
        rfl
      data := ⟨_, by rw [getMember?_data, Option.getD_some], hasData_writtenAs hdata⟩
      position := ⟨position, by rw [getMember?_ofParts _ (by decide), hfield]; rfl,
        Position.isRecordOf_fields hposition⟩ }

theorem Connection.isRecordOf_writtenAs {connection : Connection}
    (h : connection.WrittenAs members) :
    connection.IsRecordOf (Json.renameMembers connectionKey members) := by
  have hfield := Spells.getMember? h (by simp [Connection.fields])
  constructor <;> rw [hfield] <;> rfl

theorem readCharacter_writtenAs (builds : builder.BuildsRecords) {character : Character}
    (h : character.WrittenAs members) :
    builder.readCharacter (.object members) = .ok character := by
  have hfield := Spells.getMember? h (by simp [Character.fields])
  refine mapError_eq_ok_iff.mpr (builds.character _ _ ?_)
  constructor <;> rw [hfield] <;> rfl

/-- Distinct ids do not come again. -/
theorem repeatedIds_of_nodup {seen ids : List String} (h : (ids ++ seen).Nodup) :
    repeatedIds seen ids = [] := by
  induction ids generalizing seen with
  | nil => rfl
  | cons id rest ih =>
    have hnew : id ∉ seen := fun hid => by grind
    rw [repeatedIds, if_neg (by simpa using hnew)]
    exact ih (by grind)

/-- A written tree gives members of which it is made. -/
theorem treeEntry_writtenAs {tree : Tree} (h : tree.WrittenAs members) :
    ∃ entry, treeEntry members = .ok entry ∧ entry.repeated = [] ∧
      tree.reloaded.IsRecordOf entry.members := by
  obtain ⟨nodes, connections, hnodes, hconnections, htree⟩ := h
  have hfield := Spells.getMember? htree (by simp [Tree.fields])
  obtain ⟨entries, hentries, hmade⟩ := exists_forall₂ hnodes fun _ _ => exists_entry_of_writtenAs
  have hids : tree.nodes.keys = entries.map NodeEntry.id :=
    map_eq_map_of_forall₂ hmade fun _ _ h => h.1
  have hdistinct : (entries.map NodeEntry.id).Nodup := hids ▸ tree.nodes.nodup_keys
  have hmerged : (mergeEntries entries).toList = entries := Roster.toList_ofList hdistinct
  refine ⟨{
    members := treeMembers (Json.renameMembers treeKey members) entries connections
    repeated := repeatedIds [] (entries.map NodeEntry.id) }, ?_, ?_, ?_⟩
  · simp only [treeEntry, bind_eq_ok_iff, mapError_eq_ok_iff]
    exact ⟨nodes.map .object, nodeValues_list (hfield "nodes"), entries,
      mapM_eq_ok_iff.mpr (List.forall₂_map_left_iff.mpr hentries), connections,
      connectionMembers_eq_ok_iff.mpr (itemsUnder_list (hfield "connections")), rfl⟩
  · exact repeatedIds_of_nodup (by rwa [List.append_nil])
  · have hkeys : tree.reloaded.nodes.keys = entries.map NodeEntry.id := by
      rw [← hids, Roster.keys, Tree.reloaded, List.map_map]
      rfl
    have hrecords : Json.Records Node.IsRecordOf (entries.map fun entry => .object entry.members)
        tree.reloaded.nodes.toList :=
      List.forall₂_map_left_iff.mpr (List.forall₂_map_right_iff.mpr
        (hmade.flip.imp fun entry _ hentry => ⟨entry.members, rfl, hentry.2⟩))
    refine {
      id := ?_
      name := ?_
      description := ?_
      nodes := ⟨_, by rw [getMember?_nodes, Option.getD_some], by
        rw [hmerged, hkeys, List.map_map]
        rfl, by rwa [hmerged, List.map_map]⟩
      connections := ⟨_, by rw [getMember?_connections, Option.getD_some],
        List.forall₂_map_left_iff.mpr (hconnections.flip.imp fun _ _ hconnection =>
          ⟨_, rfl, Connection.isRecordOf_writtenAs hconnection⟩)⟩
      startNodeId := ?_ } <;>
    · rw [getMember?_treeMembers _ _ (by decide), hfield]
      rfl

theorem readTreeMembers_writtenAs (builds : builder.BuildsRecords) {tree : Tree}
    (h : tree.WrittenAs members) :
    builder.readTreeMembers members = .ok (tree.reloaded, []) := by
  obtain ⟨entry, hentry, hrepeated, hmade⟩ := treeEntry_writtenAs h
  simp only [Builder.readTreeMembers, bind_eq_ok_iff, mapError_eq_ok_iff]
  refine ⟨entry, hentry, tree.reloaded, builds.tree _ _ hmade, ?_⟩
  rw [hrepeated]
  rfl

theorem load_of_writtenAs (builds : builder.BuildsRecords) {tree : Tree}
    {characters : List Character} (htree : tree.WrittenAs members)
    (hcharacters : List.Forall₂ Character.WrittenAs characters objects)
    (name : Option (Setting String)) :
    builder.load
        (.object [("tree", .object members), ("characters", .list (objects.map .object))]) name =
      .ok { tree := tree.reloaded, characters } := by
  simp only [Builder.load, Builder.loadMembers, bind_eq_ok_iff]
  refine ⟨.object members, rfl, _, readTreeMembers_writtenAs builds htree, characters, ?_, rfl⟩
  simp only [Builder.readCharacters, bind_eq_ok_iff, mapError_eq_ok_iff]
  refine ⟨objects.map .object, itemsUnder_list rfl, ?_⟩
  rw [mapM_eq_ok_iff, List.forall₂_map_left_iff]
  exact hcharacters.flip.imp fun _ _ => readCharacter_writtenAs builds

/-- **Every tree and all characters can be written, and however they are written they are loaded**:
nothing is lost and nothing is advised of.  An empty content comes back as none, which is shown as
the same text. -/
theorem load_writtenAs {builder : Builder} (builds : builder.BuildsRecords) (tree : Tree)
    (characters : List Character) :
    (∃ members objects, tree.WrittenAs members ∧
      List.Forall₂ Character.WrittenAs characters objects) ∧
    ∀ (members : Json.Members) (objects : List Json.Members) (name : Option (Setting String)),
      tree.WrittenAs members → List.Forall₂ Character.WrittenAs characters objects →
      ∃ file, builder.load (.object [("tree", .object members),
          ("characters", .list (objects.map .object))]) name = .ok file ∧
        file.tree = tree.reloaded ∧ file.characters = characters ∧ file.issues = [] ∧
        ∀ node ∈ tree.nodes.toList, node.reloaded.body = node.body := by
  constructor
  · obtain ⟨members, htree⟩ := tree.exists_writtenAs
    exact ⟨members, characters.map Character.fields, htree,
      forall₂_map_self fun character _ => character.writtenAs_fields⟩
  · intro members objects name htree hcharacters
    exact ⟨_, load_of_writtenAs builds htree hcharacters name, rfl, rfl, rfl,
      fun node _ => node.body_reloaded⟩

/-- A tree with an empty content and a connection to nowhere. -/
def farewell : Tree where
  id := "t"
  name := "Farewell"
  nodes := ⟨[{ id := "a", kind := .npc, content := some "" }], by decide⟩
  connections := [{ id := "c", source := "a", target := "b" }]
  startNodeId := some "a"

/-- The node as an object, with keys as an editor spells them. -/
def farewellNode : Json.Members :=
  [("id", .text "a"), ("type", .text "npc"),
    ("data", .object [("title", .text ""), ("content", .text ""), ("character", .null),
      ("choices", .list []), ("metadata", .object [])]),
    ("position", .object [("x", .real .zero), ("y", .real .zero)])]

/-- The connection as an object. -/
def farewellConnection : Json.Members :=
  [("id", .text "c"), ("source", .text "a"), ("target", .text "b"), ("sourceHandle", .null),
    ("targetHandle", .null)]

/-- The tree as an object. -/
def farewellMembers : Json.Members :=
  [("id", .text "t"), ("name", .text "Farewell"), ("description", .null),
    ("nodes", .list [.object farewellNode]), ("connections", .list [.object farewellConnection]),
    ("startNodeId", .text "a")]

theorem load_farewell : farewell.WrittenAs farewellMembers ∧
    ∃ file, load (.object [("tree", .object farewellMembers), ("characters", .list [])]) none =
      .ok file ∧ file.tree = farewell.reloaded ∧ file.issues = [] := by
  have hnodes : List.Forall₂ Node.WrittenAs farewell.nodes.toList [farewellNode] :=
    .cons (.intro [] _ _ .nil (.refl _) (.refl _) (.of_eq rfl)) .nil
  have hconnections : List.Forall₂ Connection.WrittenAs farewell.connections [farewellConnection] :=
    .cons (.of_eq rfl) .nil
  have htree : farewell.WrittenAs farewellMembers := .intro _ _ hnodes hconnections (.of_eq rfl)
  obtain ⟨file, hload, hfile, -, hissues, -⟩ :=
    (load_writtenAs standard_buildsRecords farewell []).2 farewellMembers [] none htree .nil
  exact ⟨htree, file, hload, hfile, hissues⟩

end Reading

end Document

end Colloquy
