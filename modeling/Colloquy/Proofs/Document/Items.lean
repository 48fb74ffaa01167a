import Colloquy.Document.Load

/-!
# Items of documents

What the values under the keys of an object hold.

* `filled?_eq_none_iff`, `filled?_eq_some_iff`: void values are passed over;
* `itemsUnder_list`, `nodeValues_list`, `nodeValues_object`: values that have items;
* `allMembers?_eq_some_iff`, `allMembers?_eq_none_iff`: items that all are objects.
-/

namespace Colloquy

/-- A value that is an object. -/
def Json.IsObject (value : Json) : Prop := ∃ members, value = .object members

namespace Document

variable {members : Json.Members} {key : String} {value : Json}

theorem filled?_eq_none_iff :
    filled? members key = none ↔ ∀ v ∈ Json.getMember? members key, v.isVoid = true := by
  simp [filled?]

theorem filled?_eq_some_iff :
    filled? members key = some value ↔
      Json.getMember? members key = some value ∧ value.isVoid = false := by
  simp [filled?]

/-- A list under a key, empty or not, has its items. -/
theorem itemsUnder_list {items : List Json} (h : Json.getMember? members key = some (.list items)) :
    itemsUnder members key = .ok items := by
  unfold itemsUnder
  cases items with
  | nil => rw [filled?_eq_none_iff.mpr (by rw [h]; rintro _ ⟨⟩; rfl)]
  | cons => rw [filled?_eq_some_iff.mpr ⟨h, rfl⟩]; rfl

theorem nodeValues_list {items : List Json}
    (h : Json.getMember? members "nodes" = some (.list items)) :
    nodeValues members = .ok items := by
  unfold nodeValues
  cases items with
  | nil => rw [filled?_eq_none_iff.mpr (by rw [h]; rintro _ ⟨⟩; rfl)]
  | cons => rw [filled?_eq_some_iff.mpr ⟨h, rfl⟩]; rfl

/-- The values of an object are nodes as those of a list are. -/
theorem nodeValues_object {nodes : Json.Members}
    (h : Json.getMember? members "nodes" = some (.object nodes)) :
    nodeValues members = .ok (nodes.map Prod.snd) := by
  unfold nodeValues
  cases nodes with
  | nil => rw [filled?_eq_none_iff.mpr (by rw [h]; rintro _ ⟨⟩; rfl)]; rfl
  | cons => rw [filled?_eq_some_iff.mpr ⟨h, rfl⟩]

theorem allMembers?_cons (members : Json.Members) (rest : List Json) :
    allMembers? (.object members :: rest) = (allMembers? rest).map (members :: ·) := by
  simp only [allMembers?, List.mapM_cons, Option.bind_eq_bind, Option.pure_def,
    Option.map_eq_bind, Function.comp_def, Option.bind_some]

theorem allMembers?_eq_some_iff {items : List Json} {objects : List Json.Members} :
    allMembers? items = some objects ↔ items = objects.map .object := by
  induction items generalizing objects with
  | nil => simp [allMembers?, eq_comm]
  | cons item rest ih =>
    cases item with
    | object members =>
      rw [allMembers?_cons, Option.map_eq_some_iff]
      cases objects with
      | nil => simp
      | cons first objects =>
        simp only [ih, List.cons.injEq, List.map_cons, Json.object.injEq]
        constructor
        · rintro ⟨_, h, rfl, rfl⟩
          exact ⟨rfl, h⟩
        · rintro ⟨rfl, h⟩
          exact ⟨_, h, rfl, rfl⟩
    | null | flag | integer | real | text | list =>
      cases objects <;> simp [allMembers?, List.mapM_cons]

theorem allMembers?_eq_none_iff {items : List Json} :
    allMembers? items = none ↔ ∃ item ∈ items, ¬ item.IsObject := by
  induction items with
  | nil => simp [allMembers?]
  | cons item rest ih =>
    cases item with
    | object members =>
      rw [allMembers?_cons, Option.map_eq_none_iff, ih]
      simp [Json.IsObject]
    | null | flag | integer | real | text | list =>
      simp [allMembers?, List.mapM_cons, Json.IsObject]

theorem connectionMembers_eq_ok_iff {connections : List Json.Members} :
    connectionMembers members = .ok connections ↔
      itemsUnder members "connections" = .ok (connections.map .object) := by
  unfold connectionMembers
  cases itemsUnder members "connections" with
  | error b => simp
  | ok items =>
    rw [Except.ok.injEq, ← allMembers?_eq_some_iff]
    cases hall : allMembers? items <;> simp [hall]

end Document

end Colloquy
