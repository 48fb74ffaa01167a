import Colloquy.Proofs.Document.Readings
import Colloquy.Proofs.Document.Standard

/-!
# Shapes of documents

A tree with characters is given by itself, under a key, or among the trees of a project.  It is
loaded alike in each of these shapes, and fails to load alike.  Nor does it matter whether its nodes
are the items of a list or the values of an object.

* `readTreeMembers_insert`: a key that a tree does not have is passed over;
* `HasName`, `Picks`: the tree of a project;
* `Shape`: the documents with a tree and characters;
* `SameTree`: objects that are one tree;
* `load_eq_of_shapes`: all shapes of one tree are loaded alike.
-/

namespace Colloquy.Document

open Json (getMember? lastMember? renameMembers)

variable {builder : Builder}
  {members members' given given' tree tree' document document' : Json.Members}
  {characters : Json} {name name' : Option (Setting String)} {key : String} {value : Json}

/-! ### Unknown keys -/

/-- A member whose key is no key of a tree is passed over. -/
theorem readTreeMembers_insert (ignores : builder.IgnoresUnknown) {before after : Json.Members}
    {key : String} {value : Json}
    (hkey : treeKey key ∉ ["id", "name", "description", "nodes", "connections", "start_node_id"])
    (hname : key ≠ "name") :
    builder.readTreeMembers (before ++ (key, value) :: after) =
      builder.readTreeMembers (before ++ after) := by
  have hsame (field : String)
      (hfield : field ∈
        ["id", "name", "description", "nodes", "connections", "start_node_id"]) :
      getMember? (renameMembers treeKey (before ++ (key, value) :: after)) field =
        getMember? (renameMembers treeKey (before ++ after)) field :=
    Json.getMember?_renameMembers_insert_of_ne (by grind)
  exact readTreeMembers_eq_of_readings ignores
    (nodeReadings_congr (nodeValues_congr (hsame _ (by simp))))
    (connectionReadings_congr (hsame _ (by simp))) (fun field hfield => hsame field (by grind))
    (Json.getMember?_insert_of_ne hname)

/-! ### Nodes of a list and of an object -/

/-- Objects that are one tree: they are the same, or the nodes are the items of a list in one and
the values of an object in the other. -/
inductive SameTree : Json.Members → Json.Members → Prop
  | refl (tree : Json.Members) : SameTree tree tree
  | listed (before after nodes : Json.Members) :
      SameTree (before ++ ("nodes", .list (nodes.map Prod.snd)) :: after)
        (before ++ ("nodes", .object nodes) :: after)

theorem SameTree.map_fst_eq (same : SameTree tree tree') :
    tree.map Prod.fst = tree'.map Prod.fst := by
  cases same with
  | refl => rfl
  | listed => rw [List.map_append, List.map_append, List.map_cons, List.map_cons]

theorem nodeValues_listed (before after nodes : Json.Members) :
    nodeValues (renameMembers treeKey (before ++ ("nodes", .list (nodes.map Prod.snd)) :: after)) =
      nodeValues (renameMembers treeKey (before ++ ("nodes", .object nodes) :: after)) := by
  have hunder (value : Json) :
      getMember? (renameMembers treeKey (before ++ ("nodes", value) :: after)) "nodes" =
        (lastMember? after "nodes").or (some value) := by
    rw [Json.getMember?_renameMembers_of_iff (by unfold treeKey; grind), Json.lastMember?_middle]
  cases hafter : lastMember? after "nodes" with
  | none =>
    rw [nodeValues_list (by rw [hunder, hafter]; rfl),
      nodeValues_object (by rw [hunder, hafter]; rfl)]
  | some value => exact nodeValues_congr (by rw [hunder, hunder, hafter]; rfl)

theorem SameTree.readTreeMembers_eq (ignores : builder.IgnoresUnknown)
    (same : SameTree tree tree') :
    builder.readTreeMembers tree = builder.readTreeMembers tree' := by
  cases same with
  | refl => rfl
  | listed before after nodes =>
    have hsame (field : String) (hfield : treeKey "nodes" ≠ field) :
        getMember? (renameMembers treeKey
          (before ++ ("nodes", .list (nodes.map Prod.snd)) :: after)) field =
            getMember? (renameMembers treeKey (before ++ ("nodes", .object nodes) :: after))
              field := by
      rw [Json.getMember?_renameMembers_insert_of_ne hfield,
        Json.getMember?_renameMembers_insert_of_ne hfield]
    refine readTreeMembers_eq_of_readings ignores
      (nodeReadings_congr (nodeValues_listed before after nodes))
      (connectionReadings_congr (hsame _ (by decide)))
      (fun field hfield => hsame field (by rintro rfl; revert hfield; decide)) ?_
    rw [Json.getMember?_insert_of_ne (by decide), Json.getMember?_insert_of_ne (by decide)]

/-! ### Shapes -/

/-- A value is an object with a name.  A name that is set to none is an empty list. -/
def HasName (name : Setting String) (value : Json) : Prop :=
  value.get? "name" = some (match name with
    | .value s => .text s
    | .empty => .list [])

/-- The tree that is picked from a project: the first one, or with a name the first object that has
the name. -/
inductive Picks (tree : Json) : Option (Setting String) → List Json → Prop
  | first (rest : List Json) : Picks tree none (tree :: rest)
  | named {name : Setting String} {before : List Json} (after : List Json)
      (none : ∀ other ∈ before, ¬ HasName name other) (here : HasName name tree) :
      Picks tree (some name) (before ++ tree :: after)

/-- The documents with a tree and characters, each with a name with which it gives the tree. -/
inductive Shape (tree : Json.Members) (characters : Json) :
    Json.Members → Option (Setting String) → Prop
  /-- The tree itself, to which the characters are added. -/
  | bare {before after : Json.Members} (added : tree = before ++ after)
      (name : Option (Setting String)) :
      Shape tree characters (before ++ ("characters", characters) :: after) name
  | single (name : Option (Setting String)) :
      Shape tree characters [("tree", .object tree), ("characters", characters)] name
  | project {trees : List Json} {name : Option (Setting String)}
      (picks : Picks (.object tree) name trees) :
      Shape tree characters [("dialogTrees", .list trees), ("characters", characters)] name

theorem isNamed_iff {name : Setting String} : isNamed name value = true ↔ HasName name value := by
  unfold isNamed HasName
  cases value.get? "name" with
  | none => simp
  | some given =>
    cases given with
    | text s => cases name <;> simp
    | list items => cases name <;> simp
    | null | flag | integer | real | object => cases name <;> simp

theorem selectTree_of_picks {trees : List Json} (picks : Picks value name trees) :
    selectTree (.list trees) name = .ok value := by
  cases picks with
  | first rest => rfl
  | @named name before after none here =>
    have hfind : (before ++ value :: after).find? (isNamed name) = some value := by
      rw [List.find?_eq_some_iff_append]
      refine ⟨isNamed_iff.mpr here, before, after, rfl, fun other hother => ?_⟩
      rw [Bool.not_eq_true', ← Bool.not_eq_true, isNamed_iff]
      exact none other hother
    obtain ⟨first, rest, hsplit⟩ := List.exists_cons_of_ne_nil
      (l := before ++ value :: after) (by simp)
    rw [hsplit] at hfind ⊢
    simp only [selectTree, hfind]

/-- What a tree and characters give, whatever the shape. -/
def loadParts (builder : Builder) (tree : Json.Members) (characters : Json) :
    Except LoadError TreeFile := do
  let (tree, repeated) ← builder.readTreeMembers tree
  let characters ← builder.readCharacters [("characters", characters)]
  return { tree, characters, repeated }

theorem loadMembers_eq_loadParts (selected : treeOf document name = .ok (.object given))
    (read : builder.readTreeMembers given = builder.readTreeMembers tree)
    (under : getMember? document "characters" = some characters) :
    builder.loadMembers document name = loadParts builder tree characters := by
  have hcharacters : builder.readCharacters document =
      builder.readCharacters [("characters", characters)] := readCharacters_congr builder under
  rw [Builder.loadMembers, loadParts, selected, hcharacters, ← read]
  rfl

/-- In each shape there are the tree and the characters. -/
theorem load_of_shape (ignores : builder.IgnoresUnknown)
    (shape : Shape tree characters document name)
    (nodes : "nodes" ∈ tree.map Prod.fst)
    (plain : ∀ key ∈ ["tree", "dialogTrees", "characters"], key ∉ tree.map Prod.fst) :
    builder.load (.object document) name = loadParts builder tree characters := by
  rw [Builder.load]
  cases shape with
  | @bare before after added name =>
    subst added
    have hunder (key : String) (hkey : key ≠ "characters") :
        getMember? (before ++ ("characters", characters) :: after) key =
          getMember? (before ++ after) key := Json.getMember?_insert_of_ne hkey.symm
    have habsent (key : String) (hkey : key ∈ ["tree", "dialogTrees", "characters"]) :
        getMember? (before ++ after) key = none :=
      Json.getMember?_eq_none_iff.mpr (plain key hkey)
    apply loadMembers_eq_loadParts
    · rw [treeOf, hunder "tree" (by decide), habsent "tree" (by simp),
        hunder "dialogTrees" (by decide), habsent "dialogTrees" (by simp)]
      dsimp only
      rw [hunder "nodes" (by decide), if_pos (Json.getMember?_isSome_iff.mpr nodes)]
    · exact readTreeMembers_insert ignores (by decide) (by decide)
    · have hbefore : getMember? before "characters" = none := by
        have := habsent "characters" (by simp)
        rw [Json.getMember?_append, Option.or_eq_none_iff] at this
        exact this.1
      rw [Json.getMember?_append, hbefore, Json.getMember?_cons, if_pos rfl]
      rfl
  | single => exact loadMembers_eq_loadParts rfl rfl rfl
  | project picks =>
    have selected : treeOf [("dialogTrees", .list _), ("characters", characters)] name =
        .ok (.object tree) := selectTree_of_picks picks
    exact loadMembers_eq_loadParts selected rfl rfl

/-- **A tree with characters is loaded alike in all shapes**, whether it can be loaded or not, and
whether its nodes are the items of a list or the values of an object. -/
theorem load_eq_of_shapes (ignores : builder.IgnoresUnknown) (same : SameTree tree tree')
    (nodes : "nodes" ∈ tree.map Prod.fst)
    (plain : ∀ key ∈ ["tree", "dialogTrees", "characters"], key ∉ tree.map Prod.fst)
    (shape : Shape tree characters document name)
    (shape' : Shape tree' characters document' name') :
    builder.load (.object document) name = builder.load (.object document') name' := by
  have hkeys := same.map_fst_eq
  calc builder.load (.object document) name
    _ = loadParts builder tree characters := load_of_shape ignores shape nodes plain
    _ = loadParts builder tree' characters := by
      rw [loadParts, loadParts, same.readTreeMembers_eq ignores]
    _ = builder.load (.object document') name' :=
      (load_of_shape ignores shape' (hkeys ▸ nodes) (hkeys ▸ plain)).symm

/-- A tree without nodes, which are to be the items of a list or the values of an object. -/
def tavern (nodes : Json) : Json.Members :=
  [("id", .text "t"), ("name", .text "Tavern"), ("nodes", nodes)]

/-- By its name the tree is loaded from a project as it is by itself. -/
theorem load_tavern : load (.object (tavern (.list []) ++ [("characters", .null)])) none =
    load (.object [
      ("dialogTrees", .list [.object [("name", .text "Market")], .object (tavern (.object []))]),
      ("characters", .null)]) (some (.value "Tavern")) := by
  have hpicks : Picks (.object (tavern (.object []))) (some (.value "Tavern"))
      ([.object [("name", .text "Market")]] ++ [.object (tavern (.object []))]) :=
    .named [] (by simp [HasName, getMember?]) rfl
  exact load_eq_of_shapes standard_ignoresUnknown
    (.listed [("id", .text "t"), ("name", .text "Tavern")] [] [])
    (by decide) (by decide) (.bare (List.append_nil _).symm none) (.project hpicks)

end Colloquy.Document
