import Mathlib.Logic.Relation
import Colloquy.Proofs.Document.Shapes
import Colloquy.Proofs.Json.Rewrite

/-!
# Rewritten documents

A key has one meaning in each of its spellings, unknown keys are passed over, and conditions and
actions of older documents are content.  So a document may be rewritten in any of its objects and is
still loaded alike, or fails to load alike.

* `DataStep`, `NodeStep`, `ConnectionStep`, `TreeStep`, `CharacterStep`, `DocumentStep`: one rewrite
  at each level;
* `DataStep.dataReading_eq`, `NodeStep.reading_eq`, `TreeStep.readTreeMembers_eq`: the same is read
  before and after it;
* `load_eq_of_documentStep`, `load_eq_of_rewritten`: one rewrite and any number of them.
-/

namespace Colloquy.Document

open Json (getMember? renameMembers Respells AtKey Items Values Objects Found)

/-! ### Rewrites -/

/-- The keys that the data of a node may have. -/
def dataKeys : List String :=
  ["title", "content", "character", "choices", "metadata", "condition", "action"]

/-- The keys that a tree may have. -/
def treeKeys : List String :=
  ["id", "name", "description", "nodes", "connections", "startNodeId", "start_node_id"]

/-- The keys that tell the shapes of documents apart, and the one of the characters. -/
def documentKeys : List String := ["tree", "dialogTrees", "nodes", "characters"]

/-- A rewrite of the data of a node. -/
inductive DataStep (data data' : Json.Members) : Prop
  | respells (h : Respells [] dataKeys data data')
  /-- The condition, or the action if there is a void condition or none, comes in the place of
  content that is void or not there. -/
  | moved {key : String} {value : Json} (void : filled? data "content" = none)
      (source : key = "condition" ∨ key = "action" ∧ filled? data "condition" = none)
      (full : filled? data key = some value) (content : getMember? data' "content" = some value)
      (gone : getMember? data' key = none)
      (others : ∀ k, k ≠ "content" → k ≠ key → getMember? data k = getMember? data' k)
  | choices (h : AtKey "choices" (Items (Objects (Respells [] ["id", "text"]))) data data')

/-- A rewrite of a node. -/
inductive NodeStep (node node' : Json.Members) : Prop
  | respells
      (h : Respells [("type", "kind")] ["id", "type", "kind", "data", "position"] node node')
  | data (h : AtKey "data" (Objects DataStep) node node')
  | position (h : AtKey "position" (Objects (Respells [] ["x", "y"])) node node')

/-- A rewrite of a connection. -/
def ConnectionStep : Json.Members → Json.Members → Prop :=
  Respells [("sourceHandle", "source_handle"), ("targetHandle", "target_handle")]
    ["id", "source", "target", "sourceHandle", "source_handle", "targetHandle", "target_handle"]

/-- A rewrite of a tree; some more keys may be reserved. -/
inductive TreeStep (reserved : List String) (tree tree' : Json.Members) : Prop
  | respells (h : Respells [("startNodeId", "start_node_id")] (treeKeys ++ reserved) tree tree')
  | listed (h : AtKey "nodes" (Items (Objects NodeStep)) tree tree')
  | keyed (h : AtKey "nodes" (Values (Objects NodeStep)) tree tree')
  | connections (h : AtKey "connections" (Items (Objects ConnectionStep)) tree tree')

/-- A rewrite of a character. -/
def CharacterStep : Json.Members → Json.Members → Prop :=
  Respells [("displayName", "display_name")]
    ["id", "name", "displayName", "display_name", "role", "color"]

/-- A rewrite of a document. -/
inductive DocumentStep (document document' : Json.Members) : Prop
  /-- The document is rewritten as a tree. -/
  | bare (h : TreeStep documentKeys document document')
  /-- A key is added beside a tree or the trees of a project. -/
  | beside (h : Respells [] documentKeys document document')
      (outer : (getMember? document "tree").isSome ∨ (getMember? document "dialogTrees").isSome)
  | tree (h : AtKey "tree" (Objects (TreeStep [])) document document')
  | trees (h : AtKey "dialogTrees" (Items (Objects (TreeStep []))) document document')
  | characters (h : AtKey "characters" (Items (Objects CharacterStep)) document document')

/-! ### Lists of objects -/

section Objects

variable {members members' : Json.Members} {key : String} {γ : Type}
  {step : Json.Members → Json.Members → Prop}

/-- What depends on the objects under a key, if it does not tell a rewritten one apart. -/
theorem objectsUnder_eq {F : List Json.Members → γ}
    (found : Found (Items (Objects step)) (getMember? members key) (getMember? members' key))
    (same : ∀ before after object object', step object object' →
      F (before ++ object :: after) = F (before ++ object' :: after)) :
    (itemsUnder members key).map (fun items => (allMembers? items).map F) =
      (itemsUnder members' key).map fun items => (allMembers? items).map F := by
  rcases found.eq_or_rewritten with heq | ⟨_, _, ⟨before, after, ⟨rewritten⟩⟩, hvalue, hvalue'⟩
  · rw [itemsUnder_congr heq]
  · rw [itemsUnder_list hvalue, itemsUnder_list hvalue']
    refine congrArg Except.ok ?_
    dsimp only
    rw [allMembers?_middle, allMembers?_middle]
    cases allMembers? before with
    | none => rfl
    | some first =>
      cases allMembers? after with
      | none => rfl
      | some last => exact congrArg some (same first last _ _ rewritten)

end Objects

/-! ### Data -/

section Data

variable {data data' : Json.Members}

/-- The text and the id of a choice are all that is read of it. -/
theorem choiceEntry_eq_of_respells {choice choice' : Json.Members}
    (h : Respells [] ["id", "text"] choice choice') : choiceEntry choice = choiceEntry choice' := by
  have hid : getMember? choice "id" = getMember? choice' "id" :=
    h.getMember?_eq (by simp) (by simp)
  have htext : getMember? choice "text" = getMember? choice' "text" :=
    h.getMember?_eq (by simp) (by simp)
  simp only [choiceEntry, filled?, hid, htext]

/-- A condition or an action is the content as it would be under its own key. -/
theorem contentOf_eq_of_moved {key : String} {value : Json} (void : filled? data "content" = none)
    (source : key = "condition" ∨ key = "action" ∧ filled? data "condition" = none)
    (full : filled? data key = some value) (content : getMember? data' "content" = some value) :
    contentOf data = contentOf data' := by
  obtain ⟨hvalue, hvoid⟩ := filled?_eq_some_iff.mp full
  have hcontent : contentOf data' = value := by
    rw [contentOf, filled?_eq_some_iff.mpr ⟨content, hvoid⟩]
  rw [hcontent, contentOf, void]
  rcases source with rfl | ⟨rfl, hnone⟩
  · rw [full]
  · rw [hnone, hvalue]
    rfl

theorem DataStep.dataReading_eq (h : DataStep data data') :
    dataReading data = dataReading data' := by
  cases h with
  | respells h =>
    have hsame (key : String) (hkey : key ∈ dataKeys) :
        getMember? data key = getMember? data' key := h.getMember?_eq hkey (by simp)
    refine dataReading_congr (contentOf_congr fun key hkey => hsame key ?_)
      (choiceEntries_congr (hsame _ (by simp [dataKeys]))) fun key hkey => hsame key ?_
    all_goals
      revert key
      decide
  | @moved key value void source full content gone others =>
    have hkey : key = "condition" ∨ key = "action" := source.imp_right And.left
    refine dataReading_congr (contentOf_eq_of_moved void source full content)
      (choiceEntries_congr (others _ (by decide) ?_)) fun k hk => others k ?_ ?_
    all_goals grind
  | choices h =>
    refine dataReading_congr (contentOf_congr fun key hkey => h.getMember?_eq ?_) (fun id => ?_)
      fun key hkey => h.getMember?_eq ?_
    · grind
    · rw [choiceEntries_eq, choiceEntries_eq, objectsUnder_eq h.found]
      exact fun before after _ _ h => mapM_middle (choiceEntry_eq_of_respells h) before after
    · grind

end Data

/-! ### Nodes -/

section Node

variable {given given' members members' : Json.Members}

theorem NodeStep.reading_eq (h : NodeStep given given') :
    NodeEntry.reading (.object given) = NodeEntry.reading (.object given') := by
  cases h with
  | respells h =>
    have hsame (key : String) (hkey : key ∈ ["id", "kind", "data", "position"]) :
        getMember? (renameMembers nodeKey given) key =
          getMember? (renameMembers nodeKey given') key :=
      h.getMember?_renameMembers_eq (by simp [nodeKey]; grind) (by unfold nodeKey; grind)
    refine reading_congr (fun key hkey => hsame key (by grind))
      (by rw [knownPositionOf, knownPositionOf, hsame _ (by simp)]) ?_
    rw [dataOf_congr (hsame _ (by simp)) (hsame _ (by simp))]
  | data h =>
    have hown (k : String) : nodeKey k = "data" ↔ k = "data" := by unfold nodeKey; grind
    have hsame (key : String) (hkey : nodeKey "data" ≠ key) :
        getMember? (renameMembers nodeKey given) key =
          getMember? (renameMembers nodeKey given') key := h.getMember?_renameMembers_eq hkey
    refine reading_congr (fun key hkey => hsame key (by revert key; decide))
      (by rw [knownPositionOf, knownPositionOf, hsame _ (by decide)]) ?_
    rcases (h.found_renameMembers hown).eq_or_rewritten with
      heq | ⟨_, _, ⟨hdata⟩, hvalue, hvalue'⟩
    · rw [dataOf_congr (hsame _ (by decide)) heq]
    · rw [dataOf_object hvalue, dataOf_object hvalue']
      exact congrArg Except.ok hdata.dataReading_eq
  | position h =>
    have hown (k : String) : nodeKey k = "position" ↔ k = "position" := by unfold nodeKey; grind
    have hsame (key : String) (hkey : nodeKey "position" ≠ key) :
        getMember? (renameMembers nodeKey given) key =
          getMember? (renameMembers nodeKey given') key := h.getMember?_renameMembers_eq hkey
    refine reading_congr (fun key hkey => hsame key (by revert key; decide)) ?_
      (by rw [dataOf_congr (hsame _ (by decide)) (hsame _ (by decide))])
    rcases (h.found_renameMembers hown).eq_or_rewritten with
      heq | ⟨_, _, @⟨inner, inner', hinner⟩, hvalue, hvalue'⟩
    · rw [knownPositionOf, knownPositionOf, heq]
    · have hknown : knownPosition inner = knownPosition inner' :=
        Json.keep_congr (fun key hkey => hinner.getMember?_eq hkey (by simp))
          (List.forall_mem_nil _)
      simp only [knownPositionOf, hvalue, hvalue', Option.map_some, Json.onMembers, hknown]

end Node

/-! ### Trees -/

section Tree

variable {given given' members members' : Json.Members} {reserved : List String} {key : String}

/-- The fields of a connection are all that is read of it. -/
theorem ConnectionStep.connectionReading_eq (h : ConnectionStep given given') :
    connectionReading given = connectionReading given' :=
  Json.keep_congr (fun _ hkey => h.getMember?_renameMembers_eq
    (by simp [connectionKey]; grind) (by unfold connectionKey; grind)) (List.forall_mem_nil _)

/-- A rewritten node of a list is read as before. -/
theorem nodeReadings_of_items
    (found : Found (Items (Objects NodeStep)) (getMember? members "nodes")
      (getMember? members' "nodes")) : nodeReadings members = nodeReadings members' := by
  rcases found.eq_or_rewritten with heq | ⟨_, _, ⟨before, after, ⟨h⟩⟩, hnodes, hnodes'⟩
  · exact nodeReadings_congr (nodeValues_congr heq)
  · rw [nodeReadings, nodeReadings, nodeValues_list hnodes, nodeValues_list hnodes']
    exact mapM_middle h.reading_eq before after

/-- So is a rewritten node of an object. -/
theorem nodeReadings_of_values
    (found : Found (Values (Objects NodeStep)) (getMember? members "nodes")
      (getMember? members' "nodes")) : nodeReadings members = nodeReadings members' := by
  rcases found.eq_or_rewritten with heq | ⟨_, _, ⟨before, after, key, ⟨h⟩⟩, hnodes, hnodes'⟩
  · exact nodeReadings_congr (nodeValues_congr heq)
  · rw [nodeReadings, nodeReadings, nodeValues_object hnodes, nodeValues_object hnodes',
      List.map_append, List.map_append, List.map_cons, List.map_cons]
    exact mapM_middle h.reading_eq _ _

/-- The keys of a tree with one spelling that hold neither nodes nor connections keep their
values. -/
theorem TreeStep.getMember?_eq (h : TreeStep reserved given given')
    (hkey : key ∈ treeKeys ++ reserved)
    (hne : key ∉ ["nodes", "connections", "startNodeId", "start_node_id"]) :
    getMember? given key = getMember? given' key := by
  cases h with
  | respells h => exact h.getMember?_eq hkey (by grind)
  | listed h => exact h.getMember?_eq (by grind)
  | keyed h => exact h.getMember?_eq (by grind)
  | connections h => exact h.getMember?_eq (by grind)

theorem TreeStep.name_eq (h : TreeStep reserved given given') :
    getMember? given "name" = getMember? given' "name" :=
  h.getMember?_eq (by simp [treeKeys]) (by decide)

theorem TreeStep.readTreeMembers_eq {builder : Builder} (ignores : builder.IgnoresUnknown)
    (h : TreeStep reserved given given') :
    builder.readTreeMembers given = builder.readTreeMembers given' := by
  have hnamed := h.name_eq
  have hown (key : String) (hkey : key ∈ ["nodes", "connections"]) (k : String) :
      treeKey k = key ↔ k = key := by unfold treeKey; grind
  have hothers {changed : String} {step : Json → Json → Prop} (h : AtKey changed step given given')
      (hchanged : changed ∈ ["nodes", "connections"]) (key : String) (hne : changed ≠ key) :
      getMember? (renameMembers treeKey given) key =
        getMember? (renameMembers treeKey given') key :=
    h.getMember?_renameMembers_eq (by unfold treeKey; grind)
  cases h with
  | respells h =>
    have hsame (key : String)
        (hkey : key ∈ ["id", "name", "description", "nodes", "connections", "start_node_id"]) :
        getMember? (renameMembers treeKey given) key =
          getMember? (renameMembers treeKey given') key :=
      h.getMember?_renameMembers_eq (by simp [treeKey]; grind) (by unfold treeKey treeKeys; grind)
    exact readTreeMembers_eq_of_readings ignores
      (nodeReadings_congr (nodeValues_congr (hsame _ (by simp))))
      (connectionReadings_congr (hsame _ (by simp))) (fun key hkey => hsame key (by grind)) hnamed
  | listed h =>
    exact readTreeMembers_eq_of_readings ignores
      (nodeReadings_of_items (h.found_renameMembers (hown _ (by simp))))
      (connectionReadings_congr (hothers h (by simp) _ (by decide)))
      (fun key hkey => hothers h (by simp) key (by grind)) hnamed
  | keyed h =>
    exact readTreeMembers_eq_of_readings ignores
      (nodeReadings_of_values (h.found_renameMembers (hown _ (by simp))))
      (connectionReadings_congr (hothers h (by simp) _ (by decide)))
      (fun key hkey => hothers h (by simp) key (by grind)) hnamed
  | connections h =>
    refine readTreeMembers_eq_of_readings ignores
      (nodeReadings_congr (nodeValues_congr (hothers h (by simp) _ (by decide)))) ?_
      (fun key hkey => hothers h (by simp) key (by grind)) hnamed
    rw [connectionReadings_eq, connectionReadings_eq,
      objectsUnder_eq (h.found_renameMembers (hown _ (by simp)))]
    intro before after _ _ h
    rw [List.map_append, List.map_append, List.map_cons, List.map_cons, h.connectionReading_eq]

end Tree

/-! ### Documents -/

section Document

variable {builder : Builder} {document document' given given' : Json.Members}
  {reserved : List String} {name : Option (Setting String)}

theorem CharacterStep.readCharacter_eq (ignores : builder.IgnoresUnknown)
    (h : CharacterStep given given') :
    builder.readCharacter (.object given) = builder.readCharacter (.object given') := by
  have hknown : knownCharacter (renameMembers characterKey given) =
      knownCharacter (renameMembers characterKey given') :=
    Json.keep_congr (fun _ hkey => h.getMember?_renameMembers_eq
      (by simp [characterKey]; grind) (by unfold characterKey; grind)) (List.forall_mem_nil _)
  rw [Builder.readCharacter, Builder.readCharacter, ← ignores.character, hknown, ignores.character]

/-- A rewritten character is read as before. -/
theorem readCharacters_of_items (ignores : builder.IgnoresUnknown)
    (found : Found (Items (Objects CharacterStep)) (getMember? document "characters")
      (getMember? document' "characters")) :
    builder.readCharacters document = builder.readCharacters document' := by
  rcases found.eq_or_rewritten with heq | ⟨_, _, ⟨before, after, ⟨h⟩⟩, hvalue, hvalue'⟩
  · exact readCharacters_congr builder heq
  · rw [Builder.readCharacters, Builder.readCharacters, itemsUnder_list hvalue,
      itemsUnder_list hvalue']
    exact mapM_middle (h.readCharacter_eq ignores) before after

/-- The tree with a name is the first object that has it. -/
theorem selectTree_named (wanted : Setting String) {trees : List Json} (filled : trees ≠ []) :
    selectTree (.list trees) (some wanted) =
      (trees.find? (isNamed wanted)).elim
        (.error (.naming ((trees.filterMap nameIn?).mapM Json.display)
          (.noTreeNamed (wanted.text id)))) .ok := by
  cases trees with
  | nil => exact absurd rfl filled
  | cons first rest =>
    rw [selectTree]
    cases (first :: rest).find? (isNamed wanted) <;> rfl

/-- The first tree or the one with a name is read alike before and after a rewrite. -/
theorem selectTree_bind_eq (ignores : builder.IgnoresUnknown) (h : TreeStep reserved given given')
    (before after : List Json) :
    (selectTree (.list (before ++ .object given :: after)) name >>= builder.readTree) =
      (selectTree (.list (before ++ .object given' :: after)) name >>= builder.readTree) := by
  have hname := h.name_eq
  have hread : builder.readTree (.object given) = builder.readTree (.object given') :=
    h.readTreeMembers_eq ignores
  cases name with
  | none =>
    cases before with
    | nil => exact hread
    | cons => rfl
  | some wanted =>
    have hnamed : isNamed wanted (.object given) = isNamed wanted (.object given') := by
      simp only [isNamed, Json.get?_object, hname]
    have hnames : (before ++ Json.object given :: after).filterMap nameIn? =
        (before ++ Json.object given' :: after).filterMap nameIn? := by
      simp only [List.filterMap_append, List.filterMap_cons, nameIn?, hname]
    rw [selectTree_named wanted (by simp), selectTree_named wanted (by simp), hnames,
      List.find?_append, List.find?_append, List.find?_cons, List.find?_cons, hnamed]
    cases before.find? (isNamed wanted) with
    | some tree => rfl
    | none =>
      cases isNamed wanted (.object given') with
      | true => exact hread
      | false => rfl

/-- The tree of a document depends on the members that tell the shapes apart, and on the document as
a tree where there are none of the others. -/
theorem treeOf_bind_congr (tree : getMember? document "tree" = getMember? document' "tree")
    (trees : getMember? document "dialogTrees" = getMember? document' "dialogTrees")
    (nodes : (getMember? document "nodes").isSome = (getMember? document' "nodes").isSome)
    (bare : getMember? document "tree" = none → getMember? document "dialogTrees" = none →
      builder.readTreeMembers document = builder.readTreeMembers document') :
    (treeOf document name >>= builder.readTree) = (treeOf document' name >>= builder.readTree) := by
  unfold treeOf
  rw [← tree, ← trees, ← nodes]
  cases htree : getMember? document "tree" with
  | some => rfl
  | none =>
    cases htrees : getMember? document "dialogTrees" with
    | some => rfl
    | none =>
      dsimp only
      split
      · exact bare htree htrees
      · rfl

/-- The loading of a document depends on its tree and its characters. -/
theorem load_congr
    (tree : (treeOf document name >>= builder.readTree) =
      (treeOf document' name >>= builder.readTree))
    (characters : builder.readCharacters document = builder.readCharacters document') :
    builder.load (.object document) name = builder.load (.object document') name := by
  have hload (document : Json.Members) : builder.load (.object document) name =
      ((treeOf document name >>= builder.readTree) >>= fun read => do
        let characters ← builder.readCharacters document
        return { tree := read.1, characters, repeated := read.2 }) := by
    rw [Builder.load, Builder.loadMembers, bind_assoc]
  rw [hload, hload, tree, characters]

theorem TreeStep.isSome_nodes_eq (h : TreeStep reserved given given') :
    (getMember? given "nodes").isSome = (getMember? given' "nodes").isSome := by
  cases h with
  | respells h => rw [h.getMember?_eq (by simp [treeKeys]) (by simp)]
  | listed h => exact h.found.isSome_eq
  | keyed h => exact h.found.isSome_eq
  | connections h => rw [h.getMember?_eq (by decide)]

/-- A document is loaded alike before and after one rewrite. -/
theorem load_eq_of_documentStep (ignores : builder.IgnoresUnknown)
    (h : DocumentStep document document') :
    builder.load (.object document) name = builder.load (.object document') name := by
  cases h with
  | bare h =>
    have hsame (key : String) (hkey : key ∈ ["tree", "dialogTrees", "characters"]) :
        getMember? document key = getMember? document' key :=
      h.getMember?_eq (by simp [documentKeys]; grind) (by grind)
    exact load_congr (treeOf_bind_congr (hsame _ (by simp)) (hsame _ (by simp)) h.isSome_nodes_eq
      fun _ _ => h.readTreeMembers_eq ignores) (readCharacters_congr _ (hsame _ (by simp)))
  | beside h outer =>
    have hsame (key : String) (hkey : key ∈ documentKeys) :
        getMember? document key = getMember? document' key := h.getMember?_eq hkey (by simp)
    refine load_congr (treeOf_bind_congr (hsame _ (by decide)) (hsame _ (by decide))
      (by rw [hsame _ (by decide)]) fun htree htrees => ?_)
      (readCharacters_congr _ (hsame _ (by decide)))
    simp [htree, htrees] at outer
  | tree h =>
    refine load_congr ?_ (readCharacters_congr _ (h.getMember?_eq (by decide)))
    have hfound := h.found
    unfold treeOf
    generalize getMember? document "tree" = value at hfound ⊢
    generalize getMember? document' "tree" = value' at hfound ⊢
    rcases hfound with _ | @⟨_, _, ⟨htree⟩⟩
    · rfl
    · exact htree.readTreeMembers_eq ignores
  | trees h =>
    refine load_congr ?_ (readCharacters_congr _ (h.getMember?_eq (by decide)))
    have hfound := h.found
    have htree : getMember? document "tree" = getMember? document' "tree" :=
      h.getMember?_eq (by decide)
    unfold treeOf
    rw [← htree]
    cases getMember? document "tree" with
    | some => rfl
    | none =>
      generalize getMember? document "dialogTrees" = value at hfound ⊢
      generalize getMember? document' "dialogTrees" = value' at hfound ⊢
      rcases hfound with _ | @⟨_, _, ⟨before, after, ⟨hselected⟩⟩⟩
      · rfl
      · exact selectTree_bind_eq ignores hselected before after
  | characters h =>
    refine load_congr (treeOf_bind_congr (h.getMember?_eq (by decide)) (h.getMember?_eq (by decide))
      (by rw [h.getMember?_eq (by decide)]) fun _ _ => ?_) (readCharacters_of_items ignores h.found)
    cases h with
    | intro before after =>
      rw [readTreeMembers_insert ignores (by decide) (by decide),
        readTreeMembers_insert ignores (by decide) (by decide)]

end Document

/-- **A rewritten document is loaded alike**, or fails to load alike, whatever the rewrites, in
either direction and in any order. -/
theorem load_eq_of_rewritten {builder : Builder} (ignores : builder.IgnoresUnknown)
    {document document' : Json} (h : Relation.EqvGen (Objects DocumentStep) document document')
    (name : Option (Setting String)) :
    builder.load document name = builder.load document' name := by
  induction h with
  | rel document document' h =>
    cases h with
    | intro h => exact load_eq_of_documentStep ignores h
  | refl => rfl
  | symm _ _ _ ih => exact ih.symm
  | trans _ _ _ _ _ first second => exact first.trans second

/-- A document with one node, which asks for gold. -/
def stall (startKey kindKey contentKey : String) : Json.Members :=
  [("tree", .object [("id", .text "t"), ("name", .text "Stall"), (startKey, .text "a"),
    ("nodes", .list [.object [("id", .text "a"), (kindKey, .text "conditional"),
      ("data", .object [(contentKey, .text "gold > 5")])]])])]

/-- The tree has its key, its node has its key, the condition is content, and a version is added. -/
theorem load_stall :
    Relation.EqvGen (Objects DocumentStep) (.object (stall "startNodeId" "type" "condition"))
      (.object (("version", .integer 2) :: stall "start_node_id" "kind" "content")) ∧
    load (.object (stall "startNodeId" "type" "condition")) none =
      load (.object (("version", .integer 2) :: stall "start_node_id" "kind" "content")) none ∧
    ∃ file, load (.object (stall "startNodeId" "type" "condition")) none = .ok file ∧
      file.tree.startNodeId = some "a" := by
  have hnode {node node' : Json.Members} (h : NodeStep node node') :
      Relation.EqvGen (Objects DocumentStep)
        (.object [("tree", .object [("id", .text "t"), ("name", .text "Stall"),
          ("start_node_id", .text "a"), ("nodes", .list [.object node])])])
        (.object [("tree", .object [("id", .text "t"), ("name", .text "Stall"),
          ("start_node_id", .text "a"), ("nodes", .list [.object node'])])]) :=
    .rel _ _ (.intro (.tree (.intro [] [] (.intro (.listed (.intro
      [("id", .text "t"), ("name", .text "Stall"), ("start_node_id", .text "a")] []
      (.intro [] [] (.intro h))))))))
  have hstart : Relation.EqvGen (Objects DocumentStep)
      (.object (stall "startNodeId" "type" "condition"))
      (.object (stall "start_node_id" "type" "condition")) :=
    .rel _ _ (.intro (.tree (.intro [] [] (.intro (.respells
      (.spelled [("id", .text "t"), ("name", .text "Stall")] [("nodes", _)]
        [("id", .text "t"), ("name", .text "Stall")] [("nodes", _)] _ (by simp) rfl
        (by simp)))))))
  have hkind : Relation.EqvGen (Objects DocumentStep)
      (.object (stall "start_node_id" "type" "condition"))
      (.object (stall "start_node_id" "kind" "condition")) :=
    hnode (.respells (.spelled [("id", .text "a")] [("data", _)] [("id", .text "a")] [("data", _)] _
      (by simp) rfl (by simp)))
  have hcontent : Relation.EqvGen (Objects DocumentStep)
      (.object (stall "start_node_id" "kind" "condition"))
      (.object (stall "start_node_id" "kind" "content")) :=
    hnode (.data (.intro [("id", .text "a"), ("kind", .text "conditional")] []
      (.intro (.moved rfl (.inl rfl) rfl rfl rfl fun k hcontent hcondition => by
        simp [Json.getMember?_cons, hcontent.symm, hcondition.symm]))))
  have hversion : Relation.EqvGen (Objects DocumentStep)
      (.object (stall "start_node_id" "kind" "content"))
      (.object (("version", .integer 2) :: stall "start_node_id" "kind" "content")) :=
    .rel _ _ (.intro (.beside (.added [] _ _ (by decide)) (.inl rfl)))
  have hall := ((hstart.trans _ _ _ hkind).trans _ _ _ hcontent).trans _ _ _ hversion
  exact ⟨hall, load_eq_of_rewritten standard_ignoresUnknown hall none, _, rfl, rfl⟩

end Colloquy.Document
