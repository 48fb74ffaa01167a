import Colloquy.Document.File
import Colloquy.Proofs.Document.Items
import Colloquy.Proofs.Json.Written

/-!
# Load errors

With what error a document or a file cannot be loaded, as relations of their own, whoever builds the
records and reads the text.  Most mistakes in a document are refused, but the reading breaks down at
a few.

* `NoItems`, `ObjectsFail`, `AsObject`, `LongId`: values that are not as they should be;
* `EntryFails`, `TreeFails`, `SelectionFails`, `CharactersFail`, `DocumentFails`: how the parts of a
  document fail;
* `LoadFails`, `FileFails`: how a document and a file fail;
* `failsAs_load`, `failsAs_loadFile`: these are all load errors.
-/

namespace Colloquy

/-- A value of a kind that has no items. -/
inductive Json.IsSingle : Json → Prop
  | null : IsSingle .null
  | flag (b : Bool) : IsSingle (.flag b)
  | integer (n : Int) : IsSingle (.integer n)
  | real (x : Double) : IsSingle (.real x)

namespace Document

/-! ### Kinds of values -/

/-- The value under a key should have items and is of a kind that has none: the reading breaks
down. -/
def NoItems (members : Json.Members) (key : String) (b : Breakdown) : Prop :=
  ∃ value, filled? members key = some value ∧ value.IsSingle ∧ b = .notIterable value.kindName

/-- The items of the value under a key should all be objects. -/
inductive ObjectsFail (members : Json.Members) (key : String) (refusal : Refusal) :
    LoadError → Prop
  | noItems {b : Breakdown} (none : NoItems members key b) :
      ObjectsFail members key refusal (.broken b)
  | other {items : List Json} (under : itemsUnder members key = .ok items)
      (other : ∃ item ∈ items, ¬ item.IsObject) :
      ObjectsFail members key refusal (.refused refusal)

/-- A value that should be an object fails as the members do, if it is one. -/
inductive AsObject (refusal : Json → LoadError) (fails : Json.Members → LoadError → Prop) :
    Json → LoadError → Prop
  | other {value : Json} (other : ¬ value.IsObject) : AsObject refusal fails value (refusal value)
  | object {members : Json.Members} {e : LoadError} (failure : fails members e) :
      AsObject refusal fails (.object members) e

/-- An id that is too long to be written: the reading breaks down. -/
def LongId (value : Json) (e : LoadError) : Prop :=
  value.HoldsLong ∧ e = .broken (.number .tooLongToWrite)

/-! ### Nodes -/

/-- How the choices of a node fail. -/
def ChoicesFail (id : String) (data : Json.Members) (e : LoadError) : Prop :=
  ObjectsFail data "choices" (.choicesNotMappings id) e ∨
    ∃ choices : List Json.Members, itemsUnder data "choices" = .ok (choices.map .object) ∧
      FirstFails (fun choice => LongId ((Json.getMember? choice "id").getD .null)) choices e

/-- How a node entry fails, given its members with their one spelling. -/
inductive EntryFails (members : Json.Members) : LoadError → Prop
  | data {value : Json} (filled : filled? members "data" = some value)
      (other : ¬ value.IsObject) :
      EntryFails members (.naming (shown members "id") .nodeDataNotMapping)
  | noId {data : Json.Members} (holds : dataOf members = .ok data)
      (absent : (Json.getMember? members "id").getD .null = .null) :
      EntryFails members (.naming (shown data "title") .nodeWithoutId)
  | longId {data : Json.Members} {value : Json} {e : LoadError} (holds : dataOf members = .ok data)
      (given : Json.getMember? members "id" = some value) (long : LongId value e) :
      EntryFails members e
  | choices {data : Json.Members} {value : Json} {id : String} {e : LoadError}
      (holds : dataOf members = .ok data) (given : Json.getMember? members "id" = some value)
      (named : value ≠ .null) (written : idOf value = .ok id)
      (fails : ChoicesFail id data e) : EntryFails members e

/-- How a value that should be a node fails. -/
def NodeFails : Json → LoadError → Prop :=
  AsObject (fun _ => .refused .nodeNotMapping) fun given =>
    EntryFails (Json.renameMembers nodeKey given)

/-! ### Trees -/

/-- How a tree fails, given its members with their one spelling. -/
inductive TreeFails (builder : Builder) (given members : Json.Members) : LoadError → Prop
  | nodes {b : Breakdown} (none : NoItems members "nodes" b) :
      TreeFails builder given members (.broken b)
  | node {values : List Json} {e : LoadError} (holds : nodeValues members = .ok values)
      (fails : FirstFails NodeFails values e) : TreeFails builder given members e
  | connections {values : List Json} {entries : List NodeEntry} {e : LoadError}
      (holds : nodeValues members = .ok values) (read : values.mapM NodeEntry.ofJson = .ok entries)
      (fails : ObjectsFail members "connections" .connectionsNotMappings e) :
      TreeFails builder given members e
  | schema {values : List Json} {entries : List NodeEntry} {connections : List Json.Members}
      {error : BuildError} (holds : nodeValues members = .ok values)
      (read : values.mapM NodeEntry.ofJson = .ok entries)
      (under : itemsUnder members "connections" = .ok (connections.map .object))
      (unfit : builder.tree (treeMembers members entries connections) = .error error) :
      TreeFails builder given members (schemaError given error)

/-- How the choice of a tree fails. -/
inductive SelectionFails (members : Json.Members) (name : Option (Setting String)) :
    LoadError → Prop
  | noTree (tree : Json.getMember? members "tree" = none)
      (trees : Json.getMember? members "dialogTrees" = none)
      (nodes : Json.getMember? members "nodes" = none) :
      SelectionFails members name (.refused .noTree)
  | noTrees {trees : Json} (tree : Json.getMember? members "tree" = none)
      (given : Json.getMember? members "dialogTrees" = some trees)
      (empty : ∀ first rest, trees ≠ .list (first :: rest)) :
      SelectionFails members name (.refused .noTrees)
  | noneNamed {first : Json} {rest : List Json} {wanted : Setting String}
      (tree : Json.getMember? members "tree" = none)
      (given : Json.getMember? members "dialogTrees" = some (.list (first :: rest)))
      (named : name = some wanted) (none : ∀ item ∈ first :: rest, isNamed wanted item = false) :
      SelectionFails members name
        (.naming (((first :: rest).filterMap nameIn?).mapM Json.display)
          (.noTreeNamed (wanted.text id)))

/-! ### Documents -/

/-- The load error of a value that should be a character and is no object. -/
def notCharacter (value : Json) : LoadError :=
  .refused (.character ("'" ++ value.kindName ++ "' object has no attribute 'items'"))

/-- How a value that should be a character fails. -/
def CharacterFails (builder : Builder) : Json → LoadError → Prop :=
  AsObject notCharacter fun given e =>
    ∃ error, builder.character (Json.renameMembers characterKey given) = .error error ∧
      e = characterError error

/-- How the characters of a document fail. -/
inductive CharactersFail (builder : Builder) (members : Json.Members) : LoadError → Prop
  | noItems {b : Breakdown} (none : NoItems members "characters" b) :
      CharactersFail builder members (.broken b)
  | character {items : List Json} {e : LoadError}
      (under : itemsUnder members "characters" = .ok items)
      (fails : FirstFails (CharacterFails builder) items e) : CharactersFail builder members e

/-- How a document fails, given its members. -/
inductive DocumentFails (builder : Builder) (name : Option (Setting String))
    (members : Json.Members) : LoadError → Prop
  | selection {e : LoadError} (fails : SelectionFails members name e) :
      DocumentFails builder name members e
  | tree {value : Json} {e : LoadError} (selected : treeOf members name = .ok value)
      (fails : AsObject (fun _ => .refused .treeNotMapping)
        (fun given => TreeFails builder given (Json.renameMembers treeKey given)) value e) :
      DocumentFails builder name members e
  | characters {value : Json} {result : Tree × List String} {e : LoadError}
      (selected : treeOf members name = .ok value) (read : builder.readTree value = .ok result)
      (fails : CharactersFail builder members e) : DocumentFails builder name members e

/-- How a document fails. -/
def LoadFails (builder : Builder) (document : Json) (name : Option (Setting String)) :
    LoadError → Prop :=
  AsObject (fun _ => .refused .documentNotMapping) (DocumentFails builder name) document

/-- How a file fails before there is a document. -/
inductive ReadFails (reader : TextReader) (path : String) (content : Content) : LoadError → Prop
  | nullInPath (null : '\x00' ∈ path.toList) : ReadFails reader path content (.broken .nullInPath)
  | unreadable {error : FileError} (named : '\x00' ∉ path.toList) (none : content = .error error) :
      ReadFails reader path content (.refused (.unreadable path error))
  | octets {octets : List UInt8} {error : Text.Utf8Error} (named : '\x00' ∉ path.toList)
      (holds : content = .ok octets) (decoding : Text.decode octets = .error error) :
      ReadFails reader path content (.broken (.octets error))
  | malformed {octets : List UInt8} {text : String} (named : '\x00' ∉ path.toList)
      (holds : content = .ok octets) (decoding : Text.decode octets = .ok text)
      (reading : reader.read text = .error .malformed) :
      ReadFails reader path content (.refused (.malformed path))
  | text {octets : List UInt8} {text : String} {b : Breakdown} (named : '\x00' ∉ path.toList)
      (holds : content = .ok octets) (decoding : Text.decode octets = .ok text)
      (reading : reader.read text = .error (.broken b)) : ReadFails reader path content (.broken b)

/-- How a file fails. -/
def FileFails (builder : Builder) (reader : TextReader) (path : String) (content : Content)
    (name : Option (Setting String)) (e : LoadError) : Prop :=
  ReadFails reader path content e ∨
    ∃ document, reader.readFile path content = .ok document ∧ LoadFails builder document name e

/-! ### Accounts -/

section Accounts

variable {α : Type} {members data : Json.Members} {key : String} {refusal : Refusal}
  {x : Except LoadError α}

theorem failsAs_elements (value : Json) :
    FailsAs (elements value) fun b => value.IsSingle ∧ b = .notIterable value.kindName := by
  intro b
  constructor
  · intro h
    cases value with
    | null | flag | integer | real =>
      cases h
      exact ⟨by constructor, rfl⟩
    | text | list | object => cases h
  · rintro ⟨single, rfl⟩
    cases single <;> rfl

theorem failsAs_itemsUnder (members : Json.Members) (key : String) :
    FailsAs (itemsUnder members key) (NoItems members key) := by
  intro b
  unfold itemsUnder NoItems
  cases filled? members key with
  | none => simp
  | some value => simp [failsAs_elements value b]

theorem failsAs_nodeValues (members : Json.Members) :
    FailsAs (nodeValues members) (NoItems members "nodes") := by
  intro b
  unfold nodeValues NoItems
  split
  · next h => simp [h]
  · next h =>
    simp only [h, Option.some.injEq, exists_eq_left']
    refine ⟨nofun, ?_⟩
    rintro ⟨⟨⟩, -⟩
  · next h => simp [h, failsAs_elements _ b]

/-- The items under a key are not there, not all objects, or taken one by one. -/
theorem failsAs_objects {fails : List Json.Members → LoadError → Prop}
    (hnone : ∀ b, itemsUnder members key = .error b → x = .error (.broken b))
    (hother : ∀ items, itemsUnder members key = .ok items → allMembers? items = none →
      x = .error (.refused refusal))
    (hobjects : ∀ objects : List Json.Members,
      itemsUnder members key = .ok (objects.map .object) →
        allMembers? (objects.map .object) = some objects → FailsAs x (fails objects)) :
    FailsAs x fun e => ObjectsFail members key refusal e ∨
      ∃ objects : List Json.Members, itemsUnder members key = .ok (objects.map .object) ∧
        fails objects e := by
  intro e
  have hitems := failsAs_itemsUnder members key
  cases hunder : itemsUnder members key with
  | error b =>
    rw [hnone b hunder]
    constructor
    · intro h
      cases h
      exact .inl (.noItems ((hitems b).mp hunder))
    · rintro ((none | under) | ⟨_, ⟨⟩, -⟩)
      · rw [(hitems _).mpr none] at hunder
        cases hunder
        rfl
      · rw [hunder] at under
        cases under
  | ok items =>
    have hnot := hitems.not_of_ok hunder
    cases hall : allMembers? items with
    | none =>
      have hother' := allMembers?_eq_none_iff.mp hall
      rw [hother items hunder hall]
      constructor
      · intro h
        cases h
        exact .inl (.other hunder hother')
      · rintro ((none | ⟨-, -⟩) | ⟨objects, h, -⟩)
        · exact absurd none (hnot _)
        · rfl
        · cases h
          rw [allMembers?_eq_some_iff.mpr rfl] at hall
          cases hall
    | some objects =>
      obtain rfl := allMembers?_eq_some_iff.mp hall
      rw [hobjects objects hunder hall e]
      constructor
      · exact fun h => .inr ⟨objects, rfl, h⟩
      · rintro ((none | ⟨under, other⟩) | ⟨objects', h, hfails⟩)
        · exact absurd none (hnot _)
        · rw [hunder] at under
          cases under
          rw [allMembers?_eq_none_iff.mpr other] at hall
          cases hall
        · rw [Except.ok.inj h, allMembers?_eq_some_iff.mpr rfl] at hall
          cases hall
          exact hfails

theorem failsAs_idOf (value : Json) : FailsAs (idOf value) (LongId value) := by
  refine ((Json.failsAs_display value).mapError _).congr fun e => ?_
  simp [Json.Unwritable, LongId, and_assoc]

theorem failsAs_choiceEntries (id : String) (data : Json.Members) :
    FailsAs (choiceEntries id data) (ChoicesFail id data) := by
  have hentry (choice : Json.Members) : FailsAs (choiceEntry choice)
      (LongId ((Json.getMember? choice "id").getD .null)) := (failsAs_idOf _).map _
  unfold choiceEntries
  apply failsAs_objects
  · intro b hunder
    rw [hunder]
  · intro items hunder hall
    rw [hunder]
    dsimp only
    rw [hall]
  · intro objects hunder hall
    rw [hunder]
    dsimp only
    rw [hall]
    exact FailsAs.mapM hentry objects

theorem failsAs_connectionMembers (members : Json.Members) :
    FailsAs (connectionMembers members)
      (ObjectsFail members "connections" .connectionsNotMappings) := by
  -- the objects are taken as they are, so nothing is wrong with any of them
  have hobjects : FailsAs (connectionMembers members) fun e =>
      ObjectsFail members "connections" .connectionsNotMappings e ∨
        ∃ objects : List Json.Members,
          itemsUnder members "connections" = .ok (objects.map .object) ∧ False := by
    apply failsAs_objects
    · intro b hunder
      rw [connectionMembers, hunder]
    · intro items hunder hall
      rw [connectionMembers, hunder]
      dsimp only
      rw [hall]
    · intro objects hunder _ e
      rw [connectionMembers_eq_ok_iff.mpr hunder]
      exact ⟨nofun, False.elim⟩
  exact hobjects.congr fun e => by simp

theorem failsAs_asObject {f : Json → Except LoadError α} {refusal : Json → LoadError}
    {fails : Json.Members → LoadError → Prop}
    (hother : ∀ value, ¬ value.IsObject → f value = .error (refusal value))
    (hobject : ∀ members, FailsAs (f (.object members)) (fails members)) (value : Json) :
    FailsAs (f value) (AsObject refusal fails value) := by
  intro e
  by_cases hvalue : value.IsObject
  · obtain ⟨members, rfl⟩ := hvalue
    rw [hobject members e]
    constructor
    · exact .object
    · rintro (other | failure)
      · exact absurd ⟨members, rfl⟩ other
      · exact failure
  · rw [hother value hvalue]
    constructor
    · intro h
      cases h
      exact .other hvalue
    · rintro (- | failure)
      · rfl
      · exact absurd ⟨_, rfl⟩ hvalue

theorem failsAs_dataOf (members : Json.Members) :
    FailsAs (dataOf members) fun e => ∃ value, filled? members "data" = some value ∧
      ¬ value.IsObject ∧ e = .naming (shown members "id") .nodeDataNotMapping := by
  intro e
  unfold dataOf
  cases filled? members "data" with
  | none => simp
  | some value => cases value <;> simp [Json.IsObject, eq_comm]

theorem failsAs_ofMembers (given : Json.Members) :
    FailsAs (NodeEntry.ofMembers given) (EntryFails (Json.renameMembers nodeKey given)) := by
  intro e
  unfold NodeEntry.ofMembers
  dsimp only
  generalize Json.renameMembers nodeKey given = members
  have hnamed (value : Json) (data : Json.Members) := (failsAs_idOf value).andThen fun id =>
    (failsAs_choiceEntries id data).map fun choices =>
      NodeEntry.ofParts id members (dataEntry data choices)
  rw [bind_eq_error_iff, failsAs_dataOf members e]
  constructor
  · rintro (⟨value, filled, other, rfl⟩ | ⟨data, holds, h⟩)
    · exact .data filled other
    · split at h
      · next absent =>
        cases h
        exact .noId holds (by rw [absent]; rfl)
      · next absent =>
        cases h
        exact .noId holds (by rw [absent]; rfl)
      · next value named given =>
        rcases (hnamed value data e).mp h with long | ⟨id, written, fails⟩
        · exact .longId holds given long
        · exact .choices holds given (fun null => named (null ▸ rfl)) written fails
  · intro fails
    cases fails with
    | data filled other => exact .inl ⟨_, filled, other, rfl⟩
    | noId holds absent =>
      refine .inr ⟨_, holds, ?_⟩
      cases hid : Json.getMember? members "id" with
      | none => rfl
      | some value =>
        rw [hid, Option.getD_some] at absent
        rw [absent]
    | @longId data value e holds given long =>
      have h := (hnamed value data e).mpr (.inl long)
      refine .inr ⟨_, holds, ?_⟩
      rw [given]
      cases value with
      | null => cases long.1
      | flag | integer | real | text | list | object => exact h
    | @choices data value id e holds given named written fails =>
      have h := (hnamed value data e).mpr (.inr ⟨id, written, fails⟩)
      refine .inr ⟨_, holds, ?_⟩
      rw [given]
      cases value with
      | null => exact absurd rfl named
      | flag | integer | real | text | list | object => exact h

theorem failsAs_ofJson (value : Json) : FailsAs (NodeEntry.ofJson value) (NodeFails value) := by
  refine failsAs_asObject (fun value hvalue => ?_) failsAs_ofMembers value
  cases value with
  | object members => exact absurd ⟨members, rfl⟩ hvalue
  | _ => rfl

theorem failsAs_readTreeMembers (builder : Builder) (given : Json.Members) :
    FailsAs (builder.readTreeMembers given)
      (TreeFails builder given (Json.renameMembers treeKey given)) := by
  unfold Builder.readTreeMembers treeEntry
  dsimp only
  generalize Json.renameMembers treeKey given = members
  have hbuilt (entry : TreeEntry) : FailsAs (do
      let tree ← (builder.tree entry.members).mapError (schemaError given)
      return (tree, entry.repeated))
      fun e => ∃ error, builder.tree entry.members = .error error ∧ e = schemaError given error :=
    ((FailsAs.self _).mapError _).map _
  have hsteps := ((failsAs_nodeValues members).mapError LoadError.broken).andThen fun values =>
    (FailsAs.mapM failsAs_ofJson values).andThen fun entries =>
    (failsAs_connectionMembers members).andThen fun connections =>
    hbuilt {
      members := treeMembers members entries connections
      repeated := repeatedIds [] (entries.map NodeEntry.id) }
  simp only [bind_assoc, pure_bind]
  refine hsteps.congr fun e => ?_
  simp only [mapError_eq_ok_iff, connectionMembers_eq_ok_iff]
  constructor
  · rintro (⟨b, none, rfl⟩ | ⟨values, holds, fails | ⟨entries, read, fails |
      ⟨connections, under, error, unfit, rfl⟩⟩⟩)
    · exact .nodes none
    · exact .node holds fails
    · exact .connections holds read fails
    · exact .schema holds read under unfit
  · intro fails
    cases fails with
    | nodes none => exact .inl ⟨_, none, rfl⟩
    | node holds fails => exact .inr ⟨_, holds, .inl fails⟩
    | connections holds read fails => exact .inr ⟨_, holds, .inr ⟨_, read, .inl fails⟩⟩
    | schema holds read under unfit =>
      exact .inr ⟨_, holds, .inr ⟨_, read, .inr ⟨_, under, _, unfit, rfl⟩⟩⟩

theorem failsAs_readTree (builder : Builder) (value : Json) :
    FailsAs (builder.readTree value) (AsObject (fun _ => .refused .treeNotMapping)
      (fun given => TreeFails builder given (Json.renameMembers treeKey given)) value) := by
  refine failsAs_asObject (fun value hvalue => ?_) (failsAs_readTreeMembers builder) value
  cases value with
  | object members => exact absurd ⟨members, rfl⟩ hvalue
  | _ => rfl

theorem failsAs_treeOf (members : Json.Members) (name : Option (Setting String)) :
    FailsAs (treeOf members name) (SelectionFails members name) := by
  intro e
  constructor
  · intro h
    unfold treeOf at h
    split at h
    · cases h
    · next tree =>
      split at h
      · next trees given =>
        unfold selectTree at h
        split at h
        · next first rest =>
          split at h
          · cases h
          · next wanted =>
            split at h
            · cases h
            · next hfind =>
              cases h
              refine .noneNamed tree given rfl fun item hitem => ?_
              simpa using List.find?_eq_none.mp hfind item hitem
        · next empty =>
          cases h
          exact .noTrees tree given empty
      · next trees =>
        split at h
        · cases h
        · next nodes =>
          cases h
          exact .noTree tree trees (by simpa using nodes)
  · intro fails
    cases fails with
    | noTree tree trees nodes =>
      simp only [treeOf, tree, trees, nodes, Option.isSome_none, Bool.false_eq_true, if_false]
    | noTrees tree given empty =>
      simp only [treeOf, tree, given]
      unfold selectTree
      split
      · next first rest => exact absurd rfl (empty first rest)
      · rfl
    | @noneNamed first rest wanted tree given named none =>
      have hfind : (first :: rest).find? (isNamed wanted) = Option.none := by
        rw [List.find?_eq_none]
        intro item hitem
        rw [none item hitem]
        exact Bool.false_ne_true
      simp only [treeOf, tree, given, named, selectTree, hfind]

theorem failsAs_readCharacter (builder : Builder) (value : Json) :
    FailsAs (builder.readCharacter value) (CharacterFails builder value) := by
  refine failsAs_asObject (fun value hvalue => ?_)
    (fun given => (FailsAs.self _).mapError characterError) value
  cases value with
  | object members => exact absurd ⟨members, rfl⟩ hvalue
  | _ => rfl

theorem failsAs_readCharacters (builder : Builder) (members : Json.Members) :
    FailsAs (builder.readCharacters members) (CharactersFail builder members) := by
  have hsteps := ((failsAs_itemsUnder members "characters").mapError LoadError.broken).andThen
    fun items => FailsAs.mapM (failsAs_readCharacter builder) items
  refine hsteps.congr fun e => ?_
  simp only [mapError_eq_ok_iff]
  constructor
  · rintro (⟨b, none, rfl⟩ | ⟨items, under, fails⟩)
    · exact .noItems none
    · exact .character under fails
  · intro fails
    cases fails with
    | noItems none => exact .inl ⟨_, none, rfl⟩
    | character under fails => exact .inr ⟨_, under, fails⟩

theorem failsAs_loadMembers (builder : Builder) (name : Option (Setting String))
    (members : Json.Members) :
    FailsAs (builder.loadMembers members name) (DocumentFails builder name members) := by
  have hsteps := (failsAs_treeOf members name).andThen fun value =>
    (failsAs_readTree builder value).andThen fun result =>
    (failsAs_readCharacters builder members).map fun characters =>
      ({ tree := result.1, characters, repeated := result.2 } : TreeFile)
  refine hsteps.congr fun e => ?_
  constructor
  · rintro (fails | ⟨value, selected, fails | ⟨result, read, fails⟩⟩)
    · exact .selection fails
    · exact .tree selected fails
    · exact .characters selected read fails
  · intro fails
    cases fails with
    | selection fails => exact .inl fails
    | tree selected fails => exact .inr ⟨_, selected, .inl fails⟩
    | characters selected read fails => exact .inr ⟨_, selected, .inr ⟨_, read, fails⟩⟩

/-- How a document fails. -/
theorem failsAs_load (builder : Builder) (document : Json) (name : Option (Setting String)) :
    FailsAs (builder.load document name) (LoadFails builder document name) := by
  refine @failsAs_asObject _ (builder.load · name) _ _ (fun value hvalue => ?_)
    (failsAs_loadMembers builder name) document
  cases value with
  | object members => exact absurd ⟨members, rfl⟩ hvalue
  | _ => rfl

theorem failsAs_readFile (reader : TextReader) (path : String) (content : Content) :
    FailsAs (reader.readFile path content) (ReadFails reader path content) := by
  intro e
  constructor
  · intro h
    unfold TextReader.readFile at h
    split at h
    · next null =>
      cases h
      exact .nullInPath (by simpa using null)
    · next hnamed =>
      have named : '\x00' ∉ path.toList := by simpa using hnamed
      split at h
      · next holds =>
        cases h
        exact .unreadable named rfl
      · split at h
        · next decoding =>
          cases h
          exact .octets named rfl decoding
        · next decoding =>
          split at h
          · cases h
          · next reading =>
            cases h
            exact .malformed named rfl decoding reading
          · next reading =>
            cases h
            exact .text named rfl decoding reading
  · intro fails
    cases fails with
    | nullInPath null => simp [TextReader.readFile, null]
    | unreadable named none => simp [TextReader.readFile, named, none]
    | octets named holds decoding => simp [TextReader.readFile, named, holds, decoding]
    | malformed named holds decoding reading =>
      simp [TextReader.readFile, named, holds, decoding, reading]
    | text named holds decoding reading =>
      simp [TextReader.readFile, named, holds, decoding, reading]

/-- How a file fails. -/
theorem failsAs_loadFile (builder : Builder) (reader : TextReader) (path : String)
    (content : Content) (name : Option (Setting String)) :
    FailsAs (builder.loadFile reader path content name)
      (FileFails builder reader path content name) := by
  intro e
  unfold Builder.loadFile FileFails
  rw [← failsAs_readFile reader path content e]
  cases reader.readFile path content with
  | error e' => simp
  | ok document => simp [failsAs_load builder document name e]

end Accounts

end Document

end Colloquy
