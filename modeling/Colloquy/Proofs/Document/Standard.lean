import Colloquy.Document.Standard
import Colloquy.Proofs.Document.Laws
import Colloquy.Proofs.Json.Written
import Colloquy.Proofs.Roster
import Colloquy.Proofs.Success

/-!
# The standard builder has the laws

What the builder and the reader of the program do with fields, records and blank text.

* `buildNode_eq_ok_iff`, `buildConnection_eq_ok_iff`, `buildCharacter_eq_ok_iff`: what is built is
  what is made of the members;
* `standard_keepsOrder`, `standard_buildsRecords`, `standard_ignoresUnknown`,
  `standard_breaksOnlyAtCasts`: the laws of builders;
* `standard_readsBlank`: the law of readers.
-/

namespace Colloquy.Document

open Json (Records orNull getMember? getMember?_keep getMember?_keep_nested onMembers onItems
  onValues)

variable {members data inner : Json.Members} {outer path expected key s : String}
  {text : Option String} {value : Json} {items : List Json}

/-! ### Fields that fit -/

section Fields

theorem textAt_eq_ok_iff : textAt path value = .ok s ↔ value = .text s := by
  cases value with
  | text t => simp [textAt]
  | null | flag | integer | real | list | object => exact ⟨nofun, nofun⟩

theorem optionalTextAt_eq_ok_iff : optionalTextAt path value = .ok text ↔ value = .orNull text := by
  cases value with
  | null => cases text <;> simp [optionalTextAt, orNull]
  | text t => cases text <;> simp [optionalTextAt, orNull]
  | flag | integer | real | list | object => cases text <;> exact ⟨nofun, nofun⟩

theorem objectAt_eq_ok_iff :
    objectAt path expected value = .ok members ↔ value = .object members := by
  cases value with
  | object => simp [objectAt]
  | null | flag | integer | real | text | list => exact ⟨nofun, nofun⟩

theorem listAt_eq_ok_iff : listAt path value = .ok items ↔ value = .list items := by
  cases value with
  | list => simp [listAt]
  | null | flag | integer | real | text | object => exact ⟨nofun, nofun⟩

theorem requiredText_eq_ok_iff :
    requiredText outer members key = .ok s ↔ getMember? members key = some (.text s) := by
  unfold requiredText
  cases getMember? members key with
  | none => exact ⟨nofun, nofun⟩
  | some value => simp only [textAt_eq_ok_iff, Option.some.injEq]

/-- Null stands for a text that is not there. -/
theorem optionalText_eq_ok_iff :
    optionalText outer members key = .ok text ↔
      (getMember? members key).getD .null = .orNull text := by
  unfold optionalText
  cases getMember? members key with
  | none => cases text <;> simp [orNull]
  | some value => simp only [optionalTextAt_eq_ok_iff, Option.getD_some]

theorem optionalObject_eq_ok_iff :
    optionalObject outer expected members key = .ok inner ↔
      (getMember? members key).getD (.object []) = .object inner := by
  unfold optionalObject
  cases getMember? members key with
  | none => simp
  | some value => simp only [objectAt_eq_ok_iff, Option.getD_some]

theorem optionalList_eq_ok_iff :
    optionalList outer members key = .ok items ↔
      (getMember? members key).getD (.list []) = .list items := by
  unfold optionalList
  cases getMember? members key with
  | none => simp
  | some value => simp only [listAt_eq_ok_iff, Option.getD_some]

theorem castKind_eq_ok_iff {kind : NodeKind} :
    castKind value = .ok kind ↔ value = .text kind.name := by
  have hkind : castKind value = .ok kind ↔ kindOf? value = some kind := by
    unfold castKind
    cases kindOf? value with
    | some => simp
    | none => cases value.written <;> simp
  rw [hkind]
  cases value with
  | text name =>
    rw [kindOf?, Json.text.injEq]
    constructor
    · exact fun h => (NodeKind.name_of_ofName? h).symm
    · rintro rfl
      exact NodeKind.ofName?_name kind
  | null | flag | integer | real | list | object => exact ⟨nofun, nofun⟩

theorem readKind_eq_ok_iff {kind : NodeKind} :
    readKind members = .ok kind ↔ getMember? members "kind" = some (.text kind.name) := by
  unfold readKind
  cases getMember? members "kind" with
  | none => exact ⟨nofun, nofun⟩
  | some value => simp only [castKind_eq_ok_iff, Option.some.injEq]

theorem readTitle_eq_ok_iff :
    readTitle data = .ok s ↔ (getMember? data "title").getD (.text "") = .text s := by
  unfold readTitle
  cases getMember? data "title" with
  | none => simp
  | some value => simp only [textAt_eq_ok_iff, Option.getD_some]

theorem coordinate_eq_ok_iff {x : Double} :
    coordinate members key = .ok x ↔ Json.IsCoordinate members key x := by
  unfold coordinate Json.IsCoordinate
  cases getMember? members key with
  | none => rfl
  | some value => rfl

end Fields

/-! ### Records that are built -/

section Records

/-- The records of values are built one by one. -/
theorem buildAll_eq_ok_iff {α : Type} {record : α → Json.Members → Prop}
    {build : Json.Members → Read α} (hbuild : ∀ members a, build members = .ok a ↔ record a members)
    {records : List α} :
    buildAll path expected build items = .ok records ↔ Records record items records := by
  simp only [buildAll, mapM_eq_ok_iff, bind_eq_ok_iff, objectAt_eq_ok_iff, hbuild, Records]

theorem buildPosition_eq_ok_iff {position : Position} :
    buildPosition members = .ok position ↔ position.IsRecordOf members := by
  simp only [buildPosition, bind_eq_ok_iff, coordinate_eq_ok_iff]
  constructor
  · rintro ⟨x, hx, y, hy, h⟩
    cases h
    exact ⟨hx, hy⟩
  · rintro ⟨hx, hy⟩
    exact ⟨_, hx, _, hy, rfl⟩

theorem buildChoice_eq_ok_iff (members : Json.Members) (choice : Choice) :
    buildChoice members = .ok choice ↔ choice.IsRecordOf members := by
  simp only [buildChoice, bind_eq_ok_iff, requiredText_eq_ok_iff]
  constructor
  · rintro ⟨id, hid, text, htext, h⟩
    cases h
    exact ⟨hid, htext⟩
  · rintro ⟨hid, htext⟩
    exact ⟨_, hid, _, htext, rfl⟩

theorem buildNode_eq_ok_iff (members : Json.Members) (node : Node) :
    buildNode members = .ok node ↔ node.IsRecordOf members := by
  simp only [buildNode, buildData, buildChoices, bind_eq_ok_iff, requiredText_eq_ok_iff,
    readKind_eq_ok_iff, optionalObject_eq_ok_iff, readTitle_eq_ok_iff, optionalText_eq_ok_iff,
    optionalList_eq_ok_iff, buildAll_eq_ok_iff buildChoice_eq_ok_iff, buildPosition_eq_ok_iff]
  constructor
  · rintro ⟨id, hid, kind, hkind, _, ⟨data, hdata, title, htitle, content, hcontent, character,
      hcharacter, choices, ⟨items, hitems, hchoices⟩, metadata, hmetadata, h'⟩, position,
      ⟨inner, hinner, hposition⟩, h⟩
    cases h'
    cases h
    exact ⟨hid, hkind, ⟨data, hdata, htitle, hcontent, hcharacter, ⟨items, hitems, hchoices⟩,
      hmetadata⟩, inner, hinner, hposition⟩
  · rintro ⟨hid, hkind, ⟨data, hdata, htitle, hcontent, hcharacter, ⟨items, hitems, hchoices⟩,
      hmetadata⟩, inner, hinner, hposition⟩
    exact ⟨_, hid, _, hkind, _, ⟨data, hdata, _, htitle, _, hcontent, _, hcharacter, _,
      ⟨items, hitems, hchoices⟩, _, hmetadata, rfl⟩, _, ⟨inner, hinner, hposition⟩, rfl⟩

theorem buildConnection_eq_ok_iff (members : Json.Members) (connection : Connection) :
    buildConnection members = .ok connection ↔ connection.IsRecordOf members := by
  simp only [buildConnection, bind_eq_ok_iff, requiredText_eq_ok_iff, optionalText_eq_ok_iff]
  constructor
  · rintro ⟨id, hid, source, hsource, target, htarget, sourceHandle, hsourceHandle, targetHandle,
      htargetHandle, h⟩
    cases h
    exact ⟨hid, hsource, htarget, hsourceHandle, htargetHandle⟩
  · rintro ⟨hid, hsource, htarget, hsourceHandle, htargetHandle⟩
    exact ⟨_, hid, _, hsource, _, htarget, _, hsourceHandle, _, htargetHandle, rfl⟩

theorem buildCharacter_eq_ok_iff {character : Character} :
    buildCharacter members = .ok character ↔ character.IsRecordOf members := by
  simp only [buildCharacter, bind_eq_ok_iff, requiredText_eq_ok_iff, optionalText_eq_ok_iff]
  constructor
  · rintro ⟨id, hid, name, hname, displayName, hdisplayName, role, hrole, color, hcolor, h⟩
    cases h
    exact ⟨hid, hname, hdisplayName, hrole, hcolor⟩
  · rintro ⟨hid, hname, hdisplayName, hrole, hcolor⟩
    exact ⟨_, hid, _, hname, _, hdisplayName, _, hrole, _, hcolor, rfl⟩

theorem buildNodes_eq_ok_iff {records : List Node} :
    buildNodes members = .ok records ↔
      ∃ nodes, (getMember? members "nodes").getD (.object []) = .object nodes ∧
        Records Node.IsRecordOf (nodes.map Prod.snd) records := by
  simp only [buildNodes, bind_eq_ok_iff, optionalObject_eq_ok_iff,
    buildAll_eq_ok_iff buildNode_eq_ok_iff]

theorem buildConnections_eq_ok_iff {records : List Connection} :
    buildConnections members = .ok records ↔
      ∃ items, (getMember? members "connections").getD (.list []) = .list items ∧
        Records Connection.IsRecordOf items records := by
  simp only [buildConnections, bind_eq_ok_iff, optionalList_eq_ok_iff,
    buildAll_eq_ok_iff buildConnection_eq_ok_iff]

/-- The nodes that are built have the keys that their members have. -/
theorem map_fst_eq_of_records {nodes : Json.Members} {records : List Node}
    (keyed : ∀ node ∈ nodes, node.2.get? "id" = some (.text node.1))
    (h : Records Node.IsRecordOf (nodes.map Prod.snd) records) :
    nodes.map Prod.fst = records.map Node.id := by
  rw [Records, List.forall₂_map_left_iff] at h
  induction h with
  | nil => rfl
  | @cons node record nodes records hnode _ ih =>
    obtain ⟨members, hmembers, hrecord⟩ := hnode
    have hkey := keyed node List.mem_cons_self
    rw [hmembers, Json.get?_object, hrecord.id, Option.some.injEq, Json.text.injEq] at hkey
    rw [List.map_cons, List.map_cons, hkey,
      ih fun other hother => keyed other (List.mem_cons_of_mem _ hother)]

end Records

/-- The standard builder makes trees of their members, in order. -/
theorem standard_keepsOrder : Builder.standard.KeepsOrder := by
  intro members tree keyed h
  simp only [Builder.standard, buildTree, bind_eq_ok_iff, requiredText_eq_ok_iff,
    optionalText_eq_ok_iff, buildNodes_eq_ok_iff, buildConnections_eq_ok_iff] at h
  obtain ⟨id, hid, name, hname, description, hdescription, records, ⟨nodes, hnodes, hrecords⟩,
    connections, hconnections, startNodeId, hstart, h⟩ := h
  cases h
  have hkeys : nodes.map Prod.fst = records.map Node.id ∧ (nodes.map Prod.fst).Nodup := by
    cases hmember : getMember? members "nodes" with
    | none =>
      rw [hmember, Option.getD_none, Json.object.injEq] at hnodes
      subst hnodes
      cases hrecords
      exact ⟨rfl, List.nodup_nil⟩
    | some value =>
      rw [hmember, Option.getD_some] at hnodes
      obtain ⟨hdistinct, hids⟩ := keyed nodes (hmember.trans (congrArg some hnodes))
      exact ⟨map_fst_eq_of_records hids hrecords, hdistinct⟩
  have hlist : (.ofList records : Roster Node.id).toList = records :=
    Roster.toList_ofList (hkeys.1 ▸ hkeys.2)
  refine ⟨hid, hname, hdescription, ⟨nodes, hnodes, ?_, ?_⟩, hconnections, hstart⟩
  · rw [Roster.keys, hlist, hkeys.1]
  · rwa [hlist]

/-- The standard builder makes all records that can be made. -/
theorem standard_buildsRecords : Builder.standard.BuildsRecords where
  tree members tree h := by
    obtain ⟨nodes, hnodes, -, hrecords⟩ := h.nodes
    simp only [Builder.standard, buildTree, bind_eq_ok_iff, requiredText_eq_ok_iff,
      optionalText_eq_ok_iff, buildNodes_eq_ok_iff, buildConnections_eq_ok_iff]
    refine ⟨_, h.id, _, h.name, _, h.description, _, ⟨nodes, hnodes, hrecords⟩, _, h.connections,
      _, h.startNodeId, ?_⟩
    have hlist : .ofList tree.nodes.toList = tree.nodes :=
      Roster.ext (Roster.toList_ofList tree.nodes.distinct)
    rw [hlist]
    rfl
  character _ _ h := buildCharacter_eq_ok_iff.mpr h

/-! ### Unknown keys -/

section Unknown

variable {α : Type} {members' : Json.Members} {f : Json.Members → Json.Members}
  {build : Json.Members → Read α}

/-- What is built of an object does not change if the object does without a difference. -/
theorem optionalObject_bind_eq (hbuild : ∀ inner, build (f inner) = build inner)
    (h : getMember? members' key = (getMember? members key).map (onMembers f)) :
    (optionalObject outer expected members' key >>= build) =
      (optionalObject outer expected members key >>= build) := by
  unfold optionalObject
  rw [h]
  cases getMember? members key with
  | none => rfl
  | some value =>
    cases value with
    | object inner => exact hbuild inner
    | null | flag | integer | real | text | list => rfl

theorem buildAll_onMembers (hbuild : ∀ inner, build (f inner) = build inner) (items : List Json) :
    buildAll path expected build (items.map (onMembers f)) =
      buildAll path expected build items := by
  rw [buildAll, buildAll, List.mapM_map]
  refine congrArg (List.mapM · items) (funext fun value => ?_)
  cases value with
  | object inner => exact hbuild inner
  | null | flag | integer | real | text | list => rfl

/-- Neither does what is built of the items of a list. -/
theorem optionalList_bind_eq (hbuild : ∀ inner, build (f inner) = build inner)
    (h : getMember? members' key = (getMember? members key).map (onItems f)) :
    (optionalList outer members' key >>= buildAll path expected build) =
      (optionalList outer members key >>= buildAll path expected build) := by
  unfold optionalList
  rw [h]
  cases getMember? members key with
  | none => rfl
  | some value =>
    cases value with
    | list items => exact buildAll_onMembers hbuild items
    | null | flag | integer | real | text | object => rfl

theorem buildPosition_known (members : Json.Members) :
    buildPosition (knownPosition members) = buildPosition members := by
  have hfield (key : String) (h : key ∈ ["x", "y"]) :
      getMember? (knownPosition members) key = getMember? members key := getMember?_keep h _ _
  simp (disch := decide) only [buildPosition, coordinate, hfield]

theorem buildChoice_known (members : Json.Members) :
    buildChoice (knownChoice members) = buildChoice members := by
  have hfield (key : String) (h : key ∈ ["id", "text"]) :
      getMember? (knownChoice members) key = getMember? members key := getMember?_keep h _ _
  simp (disch := decide) only [buildChoice, requiredText, hfield]

theorem buildData_known (id : String) (kind : NodeKind) (data : Json.Members) :
    buildData id kind (knownData data) = buildData id kind data := by
  have hfield (key : String) (h : key ∈ ["title", "content", "character", "metadata"]) :
      getMember? (knownData data) key = getMember? data key := getMember?_keep h _ _
  have hchoices : buildChoices (knownData data) = buildChoices data :=
    optionalList_bind_eq buildChoice_known (getMember?_keep_nested rfl data)
  simp (disch := decide) only [buildData, readTitle, optionalText, optionalObject, hfield, hchoices]

theorem buildNode_known (members : Json.Members) :
    buildNode (knownNode members) = buildNode members := by
  have hfield (key : String) (h : key ∈ ["id", "kind"]) :
      getMember? (knownNode members) key = getMember? members key := getMember?_keep h _ _
  have hdata (id : String) (kind : NodeKind) :
      (optionalObject "nodes." "DialogNodeData" (knownNode members) "data" >>= buildData id kind) =
        (optionalObject "nodes." "DialogNodeData" members "data" >>= buildData id kind) :=
    optionalObject_bind_eq (buildData_known id kind) (getMember?_keep_nested rfl members)
  have hposition :
      (optionalObject "nodes." "Position" (knownNode members) "position" >>= buildPosition) =
        (optionalObject "nodes." "Position" members "position" >>= buildPosition) :=
    optionalObject_bind_eq buildPosition_known (getMember?_keep_nested rfl members)
  simp (disch := decide) only [buildNode, requiredText, readKind, hfield, hdata, hposition]

theorem buildConnection_known (members : Json.Members) :
    buildConnection (knownConnection members) = buildConnection members := by
  have hfield (key : String)
      (h : key ∈ ["id", "source", "target", "source_handle", "target_handle"]) :
      getMember? (knownConnection members) key = getMember? members key := getMember?_keep h _ _
  simp (disch := decide) only [buildConnection, requiredText, optionalText, hfield]

theorem buildNodes_known (members : Json.Members) :
    buildNodes (knownTree members) = buildNodes members := by
  have h : getMember? (knownTree members) "nodes" =
      (getMember? members "nodes").map (onValues knownNode) := getMember?_keep_nested rfl members
  unfold buildNodes optionalObject
  rw [h]
  cases getMember? members "nodes" with
  | none => rfl
  | some value =>
    cases value with
    | object nodes =>
      have hnodes : (nodes.map fun node => (node.1, onMembers knownNode node.2)).map Prod.snd =
          (nodes.map Prod.snd).map (onMembers knownNode) := by
        simp only [List.map_map, Function.comp_def]
      simp only [Option.map_some, onValues, objectAt, bind, Except.bind, hnodes]
      exact buildAll_onMembers buildNode_known _
    | null | flag | integer | real | text | list => rfl

theorem buildTree_known (members : Json.Members) :
    buildTree (knownTree members) = buildTree members := by
  have hfield (key : String) (h : key ∈ ["id", "name", "description", "start_node_id"]) :
      getMember? (knownTree members) key = getMember? members key := getMember?_keep h _ _
  have hconnections : buildConnections (knownTree members) = buildConnections members :=
    optionalList_bind_eq buildConnection_known (getMember?_keep_nested rfl members)
  simp (disch := decide) only [buildTree, requiredText, optionalText, hfield, buildNodes_known,
    hconnections]

theorem buildCharacter_known (members : Json.Members) :
    buildCharacter (knownCharacter members) = buildCharacter members := by
  have hfield (key : String) (h : key ∈ ["id", "name", "display_name", "role", "color"]) :
      getMember? (knownCharacter members) key = getMember? members key := getMember?_keep h _ _
  simp (disch := decide) only [buildCharacter, requiredText, optionalText, hfield]

end Unknown

/-- The standard builder passes over unknown keys. -/
theorem standard_ignoresUnknown : Builder.standard.IgnoresUnknown :=
  ⟨buildTree_known, buildCharacter_known⟩

/-! ### Failures -/

/-- A field that is missing or does not fit. -/
inductive IsOfField : BuildError → Prop
  | intro {wording : Except NumberError String}
      (long : ∀ e, wording = .error e → e = .tooLongToWrite) : IsOfField (.unfit wording)

/-- A field that is missing or does not fit, or a value that cannot be cast. -/
inductive IsOfRecord : BuildError → Prop
  | field {error : BuildError} (field : IsOfField error) : IsOfRecord error
  | invalid (wording : String) : IsOfRecord (.invalid wording)
  | cast {value : Json} {b : Breakdown} (cast : castReal value = .error (.broken b)) :
      IsOfRecord (.broken b)

section Failures

variable {α : Type}

theorem ofField {x : Read α} (h : FailsOnly x IsOfField) : FailsOnly x IsOfRecord :=
  h.imp fun _ => .field

theorem failsOnly_wrongType : FailsOnly (wrongType path expected value : Read α) IsOfField := by
  rintro _ ⟨⟩
  exact .intro fun e he => ((Json.failsAs_display value e).mp (map_eq_error_iff.mp he)).2

theorem failsOnly_missing : FailsOnly (missing path : Read α) IsOfField := by
  rintro _ ⟨⟩
  exact .intro nofun

theorem failsOnly_textAt : FailsOnly (textAt path value) IsOfField := by
  cases value with
  | text s => exact .ok s
  | null | flag | integer | real | list | object => exact failsOnly_wrongType

theorem failsOnly_optionalTextAt : FailsOnly (optionalTextAt path value) IsOfField := by
  cases value with
  | null | text => exact .ok _
  | flag | integer | real | list | object => exact failsOnly_wrongType

theorem failsOnly_objectAt : FailsOnly (objectAt path expected value) IsOfField := by
  cases value with
  | object members => exact .ok members
  | null | flag | integer | real | text | list => exact failsOnly_wrongType

theorem failsOnly_listAt : FailsOnly (listAt path value) IsOfField := by
  cases value with
  | list items => exact .ok items
  | null | flag | integer | real | text | object => exact failsOnly_wrongType

theorem failsOnly_requiredText : FailsOnly (requiredText outer members key) IsOfField := by
  unfold requiredText
  split
  · exact failsOnly_missing
  · exact failsOnly_textAt

theorem failsOnly_optionalText : FailsOnly (optionalText outer members key) IsOfField := by
  unfold optionalText
  split
  · exact .ok none
  · exact failsOnly_optionalTextAt

theorem failsOnly_optionalObject :
    FailsOnly (optionalObject outer expected members key) IsOfField := by
  unfold optionalObject
  split
  · exact .ok []
  · exact failsOnly_objectAt

theorem failsOnly_optionalList : FailsOnly (optionalList outer members key) IsOfField := by
  unfold optionalList
  split
  · exact .ok []
  · exact failsOnly_listAt

theorem failsOnly_readTitle : FailsOnly (readTitle data) IsOfField := by
  unfold readTitle
  split
  · exact .ok ""
  · exact failsOnly_textAt

theorem failsOnly_readKind : FailsOnly (readKind members) IsOfRecord := by
  unfold readKind
  split
  · exact ofField failsOnly_missing
  · unfold castKind
    split
    · exact .ok _
    · rintro _ ⟨⟩
      exact .invalid _
    · rintro _ ⟨⟩
      exact .invalid _

/-- A value that cannot be cast to a real number is invalid, or the cast breaks down. -/
theorem failsOnly_castReal (value : Json) : FailsOnly (castReal value) IsOfRecord := by
  intro error h
  cases error with
  | broken b => exact .cast h
  | invalid wording => exact .invalid wording
  | unfit wording =>
    cases value with
    | text s =>
      obtain ⟨e, -, h⟩ := mapError_eq_error_iff.mp h
      cases h
    | integer n =>
      unfold castReal at h
      dsimp only at h
      split at h <;> cases h
    | null | flag | real | list | object => cases h

theorem failsOnly_coordinate : FailsOnly (coordinate members key) IsOfRecord := by
  unfold coordinate
  split
  · exact .ok Double.zero
  · exact failsOnly_castReal _

theorem failsOnly_buildPosition (members : Json.Members) :
    FailsOnly (buildPosition members) IsOfRecord :=
  failsOnly_coordinate.bind fun _ => failsOnly_coordinate.bind fun _ => .ok _

theorem failsOnly_buildAll {build : Json.Members → Read α} {sort : BuildError → Prop}
    (hbuild : ∀ members, FailsOnly (build members) sort) (hfield : ∀ e, IsOfField e → sort e)
    (items : List Json) : FailsOnly (buildAll path expected build items) sort :=
  .mapM (fun _ => (failsOnly_objectAt.imp hfield).bind hbuild) items

theorem failsOnly_buildChoice (members : Json.Members) :
    FailsOnly (buildChoice members) IsOfField :=
  failsOnly_requiredText.bind fun _ => failsOnly_requiredText.bind fun _ => .ok _

theorem failsOnly_buildData (id : String) (kind : NodeKind) (data : Json.Members) :
    FailsOnly (buildData id kind data) IsOfField :=
  failsOnly_readTitle.bind fun _ => failsOnly_optionalText.bind fun _ =>
    failsOnly_optionalText.bind fun _ =>
    (failsOnly_optionalList.bind
      (failsOnly_buildAll failsOnly_buildChoice fun _ field => field)).bind fun _ =>
    failsOnly_optionalObject.bind fun _ => .ok _

theorem failsOnly_buildNode (members : Json.Members) : FailsOnly (buildNode members) IsOfRecord :=
  (ofField failsOnly_requiredText).bind fun id => failsOnly_readKind.bind fun kind =>
    (ofField (failsOnly_optionalObject.bind (failsOnly_buildData id kind))).bind fun _ =>
    ((ofField failsOnly_optionalObject).bind failsOnly_buildPosition).bind fun _ => .ok _

theorem failsOnly_buildConnection (members : Json.Members) :
    FailsOnly (buildConnection members) IsOfField :=
  failsOnly_requiredText.bind fun _ => failsOnly_requiredText.bind fun _ =>
    failsOnly_requiredText.bind fun _ => failsOnly_optionalText.bind fun _ =>
    failsOnly_optionalText.bind fun _ => .ok _

theorem failsOnly_buildTree (members : Json.Members) : FailsOnly (buildTree members) IsOfRecord :=
  (ofField failsOnly_requiredText).bind fun _ => (ofField failsOnly_requiredText).bind fun _ =>
    (ofField failsOnly_optionalText).bind fun _ =>
    ((ofField failsOnly_optionalObject).bind fun _ =>
      failsOnly_buildAll failsOnly_buildNode (fun _ => .field) _).bind fun _ =>
    (ofField (failsOnly_optionalList.bind
      (failsOnly_buildAll failsOnly_buildConnection fun _ field => field))).bind fun _ =>
    (ofField failsOnly_optionalText).bind fun _ => .ok _

theorem failsOnly_buildCharacter (members : Json.Members) :
    FailsOnly (buildCharacter members) IsOfField :=
  failsOnly_requiredText.bind fun _ => failsOnly_requiredText.bind fun _ =>
    failsOnly_optionalText.bind fun _ => failsOnly_optionalText.bind fun _ =>
    failsOnly_optionalText.bind fun _ => .ok _

end Failures

/-- The standard builder breaks down only at coordinates. -/
theorem standard_breaksOnlyAtCasts : Builder.standard.BreaksOnlyAtCasts where
  tree members b h := by
    cases failsOnly_buildTree members _ h with
    | field field => cases field
    | cast cast => exact ⟨_, cast⟩
  character members error h := by
    cases failsOnly_buildCharacter members error h
    exact ⟨_, rfl⟩
  treeWording members e h := by
    cases failsOnly_buildTree members _ h with
    | field field =>
      cases field with
      | intro long => exact long e rfl
  characterWording members e h := by
    cases failsOnly_buildCharacter members _ h with
    | intro long => exact long e rfl

/-! ### Blank text -/

section Blank

variable {s : List Char}

theorem joinReturns_blank (h : ∀ c ∈ s, c = ' ' ∨ c = '\n') : joinReturns s = s := by
  induction s with
  | nil => rfl
  | cons c rest ih =>
    have hrest := ih fun d hd => h d (List.mem_cons_of_mem _ hd)
    rcases h c List.mem_cons_self with rfl | rfl <;> exact congrArg _ hrest

theorem dropOrderMark_blank (h : ∀ c ∈ s, c = ' ' ∨ c = '\n') : dropOrderMark s = s := by
  cases s with
  | nil => rfl
  | cons c rest => rcases h c List.mem_cons_self with rfl | rfl <;> rfl

theorem layOutFrom_blank (h : ∀ c ∈ s, c = ' ' ∨ c = '\n') (out : List Char) (key here : Place) :
    layOutFrom out key here .outside s = some (out.reverse ++ s) := by
  induction s generalizing out here with
  | nil => simp [layOutFrom]
  | cons c rest ih =>
    have hrest := ih fun d hd => h d (List.mem_cons_of_mem _ hd)
    have hc : c ≠ ':' ∧ c ≠ Text.doubleQuote := by
      rcases h c List.mem_cons_self with rfl | rfl <;> decide
    rw [layOutFrom, if_neg fun hcolon => hc.1 hcolon.1, if_neg hc.2, hrest]
    simp

theorem scan_blank (h : ∀ c ∈ s, c = ' ' ∨ c = '\n') (tokens : List Json.Token) :
    Json.scan tokens .between s = some tokens.reverse := by
  induction s with
  | nil => simp [Json.scan]
  | cons c rest ih =>
    have hgap : Json.isGap c = true := by
      rcases h c List.mem_cons_self with rfl | rfl <;> decide
    rw [Json.scan, if_pos hgap]
    exact ih fun d hd => h d (List.mem_cons_of_mem _ hd)

theorem mem_of_mem_splitOnP {p : Char → Bool} {piece : List Char} {c : Char}
    (hpiece : piece ∈ s.splitOnP p) (hc : c ∈ piece) : c ∈ s := by
  induction s generalizing piece with
  | nil =>
    rw [List.splitOnP_nil, List.mem_singleton] at hpiece
    exact hpiece ▸ hc
  | cons d rest ih =>
    obtain ⟨first, others, hsplit⟩ := List.exists_cons_of_ne_nil (List.splitOnP_ne_nil p rest)
    rw [List.splitOnP_cons_eq_if_modifyHead, hsplit] at hpiece
    rw [hsplit] at ih
    rw [List.modifyHead_cons] at hpiece
    grind

theorem isBoundary_blank {line : List Char} (h : ∀ c ∈ line, c = ' ' ∨ c = '\n') :
    isBoundary line = false := by
  have hne (mark : List Char) (c : Char) (hc : c ∈ mark) (hother : c ≠ ' ' ∧ c ≠ '\n') :
      (line.take 3 == mark) = false := by
    refine beq_false_of_ne fun heq => ?_
    have := h c (List.mem_of_mem_take (heq ▸ hc))
    grind
  rw [isBoundary, hne "---".toList '-' (by decide) (by decide),
    hne "...".toList '.' (by decide) (by decide)]
  rfl

/-- Blank text is null for the standard reader. -/
theorem standard_readsBlank : TextReader.standard.ReadsBlank := by
  intro text h
  have hallowed : text.toList.any (!allowed.contains ·) = false := by
    rw [List.any_eq_false]
    intro c hc
    rcases h c hc with rfl | rfl <;> decide
  have hboundary : (text.toList.splitOnP Json.isLineEnd).any isBoundary = false := by
    rw [List.any_eq_false]
    intro line hline
    rw [isBoundary_blank fun c hc => h c (mem_of_mem_splitOnP hline hc)]
    exact Bool.false_ne_true
  have hjson : readJson text.toList = .ok .null := by
    rw [readJson, layOut, layOutFrom_blank h]
    dsimp only
    rw [List.reverse_nil, List.nil_append, Json.readWith, Json.tokens?, scan_blank h]
    rfl
  have hread : readText text = .ok .null := by
    simp only [readText, joinReturns_blank h, dropOrderMark_blank h, hallowed, hboundary, hjson]
    rfl
  simp only [TextReader.standard, hread]
  rfl

end Blank

end Colloquy.Document
