import Colloquy.Proofs.Document.Entries
import Colloquy.Proofs.Document.Standard
import Colloquy.Proofs.Json.Lookup

/-!
# Node entries that come again

What the nodes, the connections and the advice of a loaded document are made of, if its records are
made of their members in order.

* `HasItems`, `HasNodes`: the entries of a document;
* `HasId`, `IsNodeOf`, `IsConnectionOf`: what an entry and a connection of a document give;
* `repeats`: the ids that come again;
* `IsMadeOf`: what the parts of a loaded document are made of; of the entries with one id the last
  one gives the node, in the place of the first;
* `exists_entries_of_load`: every document that can be loaded is made so.
-/

namespace Colloquy.Document

open Json (getMember? lastMember? orNull Records)

/-! ### Entries -/

/-- The items of a value that need not be there.  A void value has none. -/
inductive HasItems : Option Json → List Json → Prop
  | void {value : Option Json} (void : ∀ v ∈ value, v.isVoid = true) : HasItems value []
  | list (items : List Json) : HasItems (some (.list items)) items

/-- The members of a value that need not be there.  A void value has none. -/
inductive HasMembers : Option Json → Json.Members → Prop
  | void {value : Option Json} (void : ∀ v ∈ value, v.isVoid = true) : HasMembers value []
  | object (members : Json.Members) : HasMembers (some (.object members)) members

/-- The node entries are items or the values of an object, whose keys play no role. -/
def HasNodes (value : Option Json) (values : List Json) : Prop :=
  HasItems value values ∨
    ∃ nodes : Json.Members, value = some (.object nodes) ∧ values = nodes.map Prod.snd

/-- The text of the id that an object has. -/
def HasId (value : Json) (id : String) : Prop :=
  ∃ members given, value = .object members ∧ lastMember? members "id" = some given ∧
    given ≠ .null ∧ given.display = .ok id

/-- The content of a node: where it is void there is a condition in its place, and where that is
void too an action. -/
inductive HasContent (data : Json.Members) : Json → Prop
  | content {value : Json} (filled : filled? data "content" = some value) : HasContent data value
  | condition {value : Json} (void : filled? data "content" = none)
      (filled : filled? data "condition" = some value) : HasContent data value
  | action (void : filled? data "content" = none) (void' : filled? data "condition" = none) :
      HasContent data ((getMember? data "action").getD .null)

/-- A value and the choice that is made of it.  A void text is empty. -/
def IsChoiceOf (value : Json) (choice : Choice) : Prop :=
  ∃ members, value = .object members ∧
    ((getMember? members "id").getD .null).display = .ok choice.id ∧
    (filled? members "text").getD (.text "") = .text choice.text

/-- The members of a node and of its data, and what is made of them, apart from the id.  The kind
has two spellings. -/
structure HasParts (node : Node) (members data : Json.Members) : Prop where
  kind : lastMember? (members.map (Prod.map nodeKey id)) "kind" = some (.text node.kind.name)
  holds : HasMembers (lastMember? members "data") data
  title : (getMember? data "title").getD (.text "") = .text node.title
  content : HasContent data (orNull node.content)
  character : (getMember? data "character").getD .null = orNull node.character
  choices : ∃ items, HasItems (getMember? data "choices") items ∧
    List.Forall₂ IsChoiceOf items node.choices
  metadata : (getMember? data "metadata").getD (.object []) = .object node.metadata
  position : ∃ inner, (lastMember? members "position").getD (.object []) = .object inner ∧
    node.position.IsRecordOf inner

/-- A value and the node that is made of it. -/
def IsNodeOf (value : Json) (node : Node) : Prop :=
  HasId value node.id ∧ ∃ members data, value = .object members ∧ HasParts node members data

/-- A value and the connection that is made of it.  Handles have two spellings. -/
def IsConnectionOf (value : Json) (connection : Connection) : Prop :=
  ∃ members, value = .object members ∧
    lastMember? members "id" = some (.text connection.id) ∧
    lastMember? members "source" = some (.text connection.source) ∧
    lastMember? members "target" = some (.text connection.target) ∧
    (lastMember? (members.map (Prod.map connectionKey id)) "source_handle").getD .null =
      orNull connection.sourceHandle ∧
    (lastMember? (members.map (Prod.map connectionKey id)) "target_handle").getD .null =
      orNull connection.targetHandle

/-- The ids that are among those before them. -/
def repeats (ids : List String) : List String :=
  (ids.zipIdx.filter fun p => (ids.take p.2).contains p.1).map Prod.fst

/-- What the parts of a loaded document are made of: the values that are its node entries, which
have the given ids, and the items that are its connections. -/
structure IsMadeOf (file : TreeFile) (values : List Json) (ids : List String)
    (items : List Json) : Prop where
  hasId : List.Forall₂ HasId values ids
  /-- Each id stands where it first came. -/
  keys_eq : file.tree.nodes.keys = ids.eraseDups
  /-- The node with an id is made of the last entry with it. -/
  last : ∀ id ∈ ids, ∃ before value after node, values = before ++ value :: after ∧
    HasId value id ∧ (∀ later ∈ after, ¬ HasId later id) ∧
    file.tree.nodes.find? id = some node ∧ node.id = id ∧ IsNodeOf value node
  /-- There is one line of advice for each entry with the id of an earlier one. -/
  issues_eq : file.issues = (repeats ids).map fun id =>
    "Duplicate node id '" ++ id ++ "'. Only the last definition was kept."
  isConnection : List.Forall₂ IsConnectionOf items file.tree.connections

section Entries

variable {members given data : Json.Members} {key i j : String} {value : Json}
  {items values : List Json} {entry : NodeEntry} {node : Node}

/-- Only the items of a list can all be objects, if there are any. -/
theorem eq_list_of_elements (h : elements value = .ok items) (filled : value.isVoid = false)
    (objects : ∀ item ∈ items, item.IsObject) : value = .list items := by
  have hnot (item : Json) (rest : List Json) (hitems : items = item :: rest)
      (hitem : ¬ item.IsObject) : False :=
    hitem (objects item (hitems ▸ List.mem_cons_self))
  cases value with
  | list =>
    cases h
    rfl
  | object members =>
    cases h
    cases members with
    | nil => cases filled
    | cons => exact (hnot _ _ rfl (by rintro ⟨_, ⟨⟩⟩)).elim
  | text s =>
    cases h
    cases hs : s.toList with
    | nil =>
      rw [String.toList_eq_nil_iff] at hs
      subst hs
      cases filled
    | cons => exact (hnot _ _ (by rw [hs, List.map_cons]) (by rintro ⟨_, ⟨⟩⟩)).elim
  | null | flag | integer | real => cases h

theorem hasItems_of_itemsUnder (h : itemsUnder members key = .ok items)
    (objects : ∀ item ∈ items, item.IsObject) :
    HasItems (getMember? members key) items := by
  unfold itemsUnder at h
  split at h
  · next hfilled =>
    cases h
    exact .void (filled?_eq_none_iff.mp hfilled)
  · next hfilled =>
    obtain ⟨hvalue, hvoid⟩ := filled?_eq_some_iff.mp hfilled
    rw [hvalue, eq_list_of_elements h hvoid objects]
    exact .list items

theorem hasNodes_of_nodeValues (h : nodeValues members = .ok values)
    (objects : ∀ item ∈ values, item.IsObject) :
    HasNodes (getMember? members "nodes") values := by
  unfold nodeValues at h
  split at h
  · next hfilled =>
    cases h
    exact .inl (.void (filled?_eq_none_iff.mp hfilled))
  · next nodes hfilled =>
    cases h
    exact .inr ⟨nodes, (filled?_eq_some_iff.mp hfilled).1, rfl⟩
  · next hfilled =>
    obtain ⟨hvalue, hvoid⟩ := filled?_eq_some_iff.mp hfilled
    rw [hvalue, eq_list_of_elements h hvoid objects]
    exact .inl (.list values)

theorem hasMembers_of_dataOf (h : dataOf members = .ok data) :
    HasMembers (getMember? members "data") data := by
  unfold dataOf at h
  split at h
  · next hfilled =>
    cases h
    exact .void (filled?_eq_none_iff.mp hfilled)
  · next hfilled =>
    cases h
    rw [(filled?_eq_some_iff.mp hfilled).1]
    exact .object data
  · cases h

theorem hasContent_contentOf (data : Json.Members) : HasContent data (contentOf data) := by
  unfold contentOf
  split
  · next filled => exact .content filled
  · next void =>
    split
    · next filled => exact .condition void filled
    · next void' => exact .action void void'

/-- The parts of a node entry. -/
theorem exists_parts_of_ofJson (h : NodeEntry.ofJson value = .ok entry) :
    ∃ given data id written choices, value = .object given ∧
      dataOf (Json.renameMembers nodeKey given) = .ok data ∧
      lastMember? given "id" = some id ∧ id ≠ .null ∧ id.display = .ok written ∧
      choiceEntries written data = .ok choices ∧
      entry = .ofParts written (Json.renameMembers nodeKey given) (dataEntry data choices) := by
  cases value with
  | object given =>
    simp only [NodeEntry.ofJson, NodeEntry.ofMembers, bind_eq_ok_iff] at h
    obtain ⟨data, hdata, h⟩ := h
    rw [Json.getMember?_renameMembers_of_iff (by unfold nodeKey; grind)] at h
    split at h
    · cases h
    · cases h
    · next id hnull hid =>
      simp only [bind_eq_ok_iff] at h
      obtain ⟨written, hwritten, choices, hchoices, h⟩ := h
      cases h
      exact ⟨given, data, id, written, choices, rfl, hdata, hid, hnull,
        mapError_eq_ok_iff.mp hwritten, hchoices, rfl⟩
  | null | flag | integer | real | text | list => cases h

theorem hasId_of_ofJson (h : NodeEntry.ofJson value = .ok entry) : HasId value entry.id := by
  obtain ⟨given, data, id, written, choices, rfl, -, hid, hnull, hwritten, -, rfl⟩ :=
    exists_parts_of_ofJson h
  exact ⟨given, id, rfl, hid, hnull, hwritten⟩

theorem getMember?_id_of_ofJson (h : NodeEntry.ofJson value = .ok entry) :
    getMember? entry.members "id" = some (.text entry.id) := by
  obtain ⟨given, data, id, written, choices, -, -, -, -, -, -, rfl⟩ := exists_parts_of_ofJson h
  exact getMember?_id _ _ _

/-- An object has one id. -/
theorem HasId.eq (h : HasId value i) (h' : HasId value j) : i = j := by
  obtain ⟨members, given, rfl, hgiven, -, hi⟩ := h
  obtain ⟨_, given', ⟨⟩, hgiven', -, hj⟩ := h'
  rw [hgiven, Option.some.injEq] at hgiven'
  rw [hgiven', hj, Except.ok.injEq] at hi
  exact hi.symm

theorem HasId.display_eq (h : HasId (.object members) i)
    (hid : lastMember? members "id" = some value) : value.display = .ok i := by
  obtain ⟨_, given, ⟨⟩, hgiven, -, htext⟩ := h
  rw [hid, Option.some.injEq] at hgiven
  rwa [hgiven]

theorem eq_toString_of_display {n : Int} {s : String} (h : (Json.integer n).display = .ok s) :
    s = toString n := by
  simp only [Json.display, Json.written, integerText] at h
  split at h
  · cases h
  · exact (Except.ok.inj h).symm

/-- The choices of an entry are made of the choices of the document. -/
theorem isChoiceOf_of_choiceEntries {id : String} {choices : List Json} {records : List Choice}
    (h : choiceEntries id data = .ok choices) (made : Records Choice.IsRecordOf choices records) :
    ∃ items, HasItems (getMember? data "choices") items ∧
      List.Forall₂ IsChoiceOf items records := by
  unfold choiceEntries at h
  split at h
  · cases h
  · next items hitems =>
    split at h
    · next objects hobjects =>
      obtain rfl := allMembers?_eq_some_iff.mp hobjects
      refine ⟨objects.map .object, hasItems_of_itemsUnder hitems ?_, ?_⟩
      · intro item hitem
        obtain ⟨members, -, rfl⟩ := List.mem_map.mp hitem
        exact ⟨members, rfl⟩
      · rw [List.forall₂_map_left_iff]
        refine forall₂_comp (mapM_eq_ok_iff.mp h) made ?_
        rintro members entry choice hentry ⟨_, rfl, hrecord⟩
        obtain ⟨id, hid, hmembers⟩ := map_eq_ok_iff.mp hentry
        cases hmembers
        obtain ⟨hchoiceId, htext⟩ := hrecord
        cases hchoiceId
        exact ⟨members, rfl, mapError_eq_ok_iff.mp hid, Option.some.inj htext⟩
    · cases h

/-- The record of an entry is made of the node of the document. -/
theorem isNodeOf_of_isRecordOf (h : NodeEntry.ofJson value = .ok entry)
    (made : node.IsRecordOf entry.members) : IsNodeOf value node := by
  have hid := hasId_of_ofJson h
  have hnodeId := made.id
  rw [getMember?_id_of_ofJson h, Option.some.injEq, Json.text.injEq] at hnodeId
  refine ⟨hnodeId ▸ hid, ?_⟩
  obtain ⟨given, data, id, written, choices, rfl, hdata, -, -, -, hchoices, rfl⟩ :=
    exists_parts_of_ofJson h
  obtain ⟨-, hkind, ⟨entryData, hentryData, hmade⟩, inner, hinner, hposition⟩ := made
  rw [getMember?_data, Option.getD_some, Json.object.injEq] at hentryData
  subst hentryData
  obtain ⟨htitle, hcontent, hcharacter, ⟨items, hitems, hrecords⟩, hmetadata⟩ := hmade
  rw [getMember?_dataEntry _ (by decide)] at htitle hcharacter hmetadata
  rw [getMember?_content, Option.getD_some] at hcontent
  rw [getMember?_choices, Option.getD_some, Json.list.injEq] at hitems
  subst hitems
  rw [getMember?_ofParts _ (by decide)] at hkind hinner
  have hunder := hasMembers_of_dataOf hdata
  rw [Json.getMember?_renameMembers] at hkind
  rw [Json.getMember?_renameMembers_of_iff (by unfold nodeKey; grind)] at hinner hunder
  exact ⟨given, data, rfl, hkind, hunder, htitle, hcontent ▸ hasContent_contentOf data, hcharacter,
    isChoiceOf_of_choiceEntries hchoices hrecords, hmetadata, inner, hinner, hposition⟩

theorem isConnectionOf_of_isRecordOf {connection : Connection}
    (h : connection.IsRecordOf (Json.renameMembers connectionKey members)) :
    IsConnectionOf (.object members) connection := by
  obtain ⟨hid, hsource, htarget, hsourceHandle, htargetHandle⟩ := h
  rw [Json.getMember?_renameMembers_of_iff (by unfold connectionKey; grind)] at hid hsource htarget
  rw [Json.getMember?_renameMembers] at hsourceHandle htargetHandle
  exact ⟨members, rfl, hid, hsource, htarget, hsourceHandle, htargetHandle⟩

end Entries

/-! ### Ids that come again -/

/-- The walk over the ids behind those in `before`, which are the ids seen. -/
theorem repeatedIds_eq_filter {seen before ids : List String}
    (hseen : ∀ id, id ∈ seen ↔ id ∈ before) :
    repeatedIds seen ids =
      ((ids.zipIdx before.length).filter fun p =>
        ((before ++ ids).take p.2).contains p.1).map Prod.fst := by
  induction ids generalizing seen before with
  | nil => rfl
  | cons id rest ih =>
    have hhere : (((before ++ id :: rest).take before.length).contains id) = seen.contains id := by
      rw [List.take_left, Bool.eq_iff_iff, List.contains_iff_mem, List.contains_iff_mem, hseen]
    have hrest (seen' : List String) (hseen' : ∀ other, other ∈ seen' ↔ other ∈ before ++ [id]) :
        repeatedIds seen' rest = ((rest.zipIdx (before.length + 1)).filter fun p =>
          ((before ++ id :: rest).take p.2).contains p.1).map Prod.fst := by
      simpa using ih hseen'
    rw [repeatedIds, List.zipIdx_cons]
    split
    · next h =>
      rw [List.filter_cons_of_pos (by rw [hhere]; exact h), List.map_cons, hrest]
      intro other
      have := hseen id
      grind
    · next h =>
      rw [List.filter_cons_of_neg (by rw [hhere]; exact h), hrest]
      intro other
      have := hseen other
      grind

theorem repeatedIds_nil (ids : List String) : repeatedIds [] ids = repeats ids :=
  repeatedIds_eq_filter fun _ => Iff.rfl

/-! ### Loaded documents -/

section Loaded

variable {members : Json.Members} {values : List Json} {entries : List NodeEntry}
  {connections : List Json.Members} {tree : Tree}

theorem nodesAreKeyed_treeMembers
    (hentries : ∀ entry ∈ entries, getMember? entry.members "id" = some (.text entry.id)) :
    NodesAreKeyed (treeMembers members entries connections) := by
  intro nodes hnodes
  rw [getMember?_nodes, Option.some.injEq, Json.object.injEq] at hnodes
  subst hnodes
  constructor
  · rw [List.map_map]
    exact (mergeEntries entries).distinct
  · intro node hnode
    obtain ⟨entry, hentry, rfl⟩ := List.mem_map.mp hnode
    exact hentries entry (Roster.mem_of_mem_ofList hentry)

/-- The nodes of a tree are made of the entries: the last one with an id gives the node. -/
theorem exists_last_of_isRecordOf
    (hentries : List.Forall₂ (NodeEntry.ofJson · = .ok ·) values entries)
    (made : tree.IsRecordOf (treeMembers members entries connections)) :
    tree.nodes.keys = (entries.map NodeEntry.id).eraseDups ∧
      ∀ id ∈ entries.map NodeEntry.id, ∃ before value after node,
        values = before ++ value :: after ∧ HasId value id ∧ (∀ later ∈ after, ¬ HasId later id) ∧
        tree.nodes.find? id = some node ∧ node.id = id ∧ IsNodeOf value node := by
  obtain ⟨nodes, hnodes, hkeys, hrecords⟩ := made.nodes
  rw [getMember?_nodes, Option.getD_some, Json.object.injEq] at hnodes
  subst hnodes
  have hmerged : tree.nodes.keys = (mergeEntries entries).keys := by
    rw [← hkeys, List.map_map]
    rfl
  rw [hmerged, mergeEntries, Roster.keys_ofList]
  refine ⟨rfl, fun id hid => ?_⟩
  rw [← List.mem_eraseDups, ← Roster.keys_ofList, ← Roster.contains_iff, Roster.contains,
    Option.isSome_iff_exists] at hid
  obtain ⟨entry, hentry⟩ := hid
  obtain ⟨rfl, before, after, rfl, hafter⟩ := Roster.find?_ofList_eq_some_iff.mp hentry
  obtain ⟨before', value, after', rfl, hvalue, hlater⟩ := exists_split_of_forall₂ hentries
  obtain ⟨node, hnode, _, hmembers, hrecord⟩ := exists_mem_of_forall₂ hrecords
    (List.mem_map_of_mem (List.mem_map_of_mem (Roster.mem_of_find? hentry)))
  cases hmembers
  have hmade := isNodeOf_of_isRecordOf hvalue hrecord
  have hid : node.id = entry.id := hmade.1.eq (hasId_of_ofJson hvalue)
  refine ⟨before', value, after', node, rfl, hasId_of_ofJson hvalue, fun later hmem hlaterId => ?_,
    hid ▸ Roster.find?_of_mem hnode, hid, hmade⟩
  obtain ⟨other, hother, hread⟩ := exists_mem_of_forall₂ hlater hmem
  exact hafter other hother ((hasId_of_ofJson hread).eq hlaterId)

theorem isMadeOf_of_readTreeMembers {builder : Builder} (keeps : builder.KeepsOrder)
    {given : Json.Members} {repeated : List String}
    (h : builder.readTreeMembers given = .ok (tree, repeated)) (characters : List Character) :
    ∃ values ids items, HasNodes (lastMember? given "nodes") values ∧
      HasItems (lastMember? given "connections") items ∧
      IsMadeOf { tree, characters, repeated } values ids items := by
  simp only [Builder.readTreeMembers, treeEntry, bind_eq_ok_iff, mapError_eq_ok_iff] at h
  obtain ⟨_, ⟨values, hvalues, entries, hentries, objects, hobjects, hentry⟩, built, hbuilt, h⟩ := h
  cases hentry
  cases h
  have hread := mapM_eq_ok_iff.mp hentries
  have hids : List.Forall₂ HasId values (entries.map NodeEntry.id) := by
    rw [List.forall₂_map_right_iff]
    exact hread.imp fun _ _ => hasId_of_ofJson
  have hkeyed : NodesAreKeyed (treeMembers (Json.renameMembers treeKey given) entries objects) :=
    nodesAreKeyed_treeMembers fun entry hentry => by
      obtain ⟨_, -, hvalue⟩ := exists_mem_of_forall₂ hread.flip hentry
      exact getMember?_id_of_ofJson hvalue
  have hmade := keeps _ _ hkeyed hbuilt
  obtain ⟨hkeys, hlast⟩ := exists_last_of_isRecordOf hread hmade
  have hnodesUnder := hasNodes_of_nodeValues hvalues fun value hvalue => by
    obtain ⟨_, -, members, _, hmembers, -⟩ := exists_mem_of_forall₂ hids hvalue
    exact ⟨members, hmembers⟩
  have hitemsUnder := hasItems_of_itemsUnder (connectionMembers_eq_ok_iff.mp hobjects)
    fun item hitem => by
      obtain ⟨members, -, rfl⟩ := List.mem_map.mp hitem
      exact ⟨members, rfl⟩
  rw [Json.getMember?_renameMembers_of_iff (by unfold treeKey; grind)] at hnodesUnder hitemsUnder
  refine ⟨values, _, _, hnodesUnder, hitemsUnder, hids, hkeys, hlast, ?_, ?_⟩
  · rw [TreeFile.issues, repeatedIds_nil]
  · obtain ⟨items, hitems, hrecords⟩ := hmade.connections
    rw [getMember?_connections, Option.getD_some, Json.list.injEq] at hitems
    subst hitems
    rw [Records, List.forall₂_map_left_iff] at hrecords
    rw [List.forall₂_map_left_iff]
    refine hrecords.imp fun members connection hrecord => ?_
    obtain ⟨_, ⟨⟩, hrecord⟩ := hrecord
    exact isConnectionOf_of_isRecordOf hrecord

/-- **The node entries of a document that can be loaded are merged into its nodes**, in order: the
ids are those of the entries without repetitions, the last entry with an id gives the node, each
entry with the id of an earlier one is advised of, and the connections are those of the document.  A
number and a text are one id exactly if the text is that of the number. -/
theorem exists_entries_of_load {builder : Builder} (keeps : builder.KeepsOrder) {document : Json}
    {name : Option (Setting String)} {file : TreeFile} (h : builder.load document name = .ok file) :
    ∃ members given values ids items, document = .object members ∧
      treeOf members name = .ok (.object given) ∧
      HasNodes (lastMember? given "nodes") values ∧
      HasItems (lastMember? given "connections") items ∧
      IsMadeOf file values ids items ∧
      ∀ (n : Int) (s : String) (a b : Json.Members) (i j : String),
        (.object a, i) ∈ values.zip ids → (.object b, j) ∈ values.zip ids →
        lastMember? a "id" = some (.integer n) → lastMember? b "id" = some (.text s) →
        (i = j ↔ toString n = s) := by
  cases document with
  | object members =>
    simp only [Builder.load, Builder.loadMembers, bind_eq_ok_iff] at h
    obtain ⟨value, hvalue, ⟨tree, repeated⟩, htree, characters, -, h⟩ := h
    cases h
    cases value with
    | object given =>
      obtain ⟨values, ids, items, hnodes, hitems, hmade⟩ :=
        isMadeOf_of_readTreeMembers keeps htree characters
      refine ⟨members, given, values, ids, items, rfl, hvalue, hnodes, hitems, hmade, ?_⟩
      intro n s a b i j ha hb hn hs
      have hi := (List.forall₂_zip hmade.hasId ha).display_eq hn
      have hj := (List.forall₂_zip hmade.hasId hb).display_eq hs
      rw [Json.display_text, Except.ok.injEq] at hj
      rw [eq_toString_of_display hi, hj]
    | null | flag | integer | real | text | list => cases htree
  | null | flag | integer | real | text | list => cases h

end Loaded

/-- A tree whose first and last node have one id, once as a number and once as a text. -/
def numberedDocument : Json :=
  .object [("id", .text "t"), ("name", .text "T"),
    ("nodes", .list [
      .object [("id", .integer 1), ("type", .text "npc")],
      .object [("id", .text "2"), ("type", .text "end")],
      .object [("id", .text "1"), ("type", .text "action")]]),
    ("connections", .list [
      .object [("id", .text "c"), ("source", .text "1"), ("target", .text "2")]])]

theorem numberedDocument_isMadeOf : ∃ file values ids items,
    load numberedDocument none = .ok file ∧ IsMadeOf file values ids items ∧
      file.tree.nodes.keys = ["1", "2"] ∧ file.repeated = ["1"] := by
  have hload : load numberedDocument none = .ok {
      tree := {
        id := "t"
        name := "T"
        nodes := .ofList [{ id := "1", kind := .action }, { id := "2", kind := .ending }]
        connections := [{ id := "c", source := "1", target := "2" }] }
      repeated := ["1"] } := by
    rfl
  obtain ⟨_, _, values, ids, items, -, -, -, -, hmade, -⟩ :=
    exists_entries_of_load standard_keepsOrder hload
  exact ⟨_, values, ids, items, hload, hmade, rfl, rfl⟩

end Colloquy.Document
