import Colloquy.Roster
import Colloquy.Value

/-!
# Variable stores

The variables of a conversation: names with their values, in the order in which the names were first
set.  Items that the player holds and the state of quests are variables too, under names of their
own.

* `Store`, `Store.get?`, `Store.set`;
* `itemVariable`, `questVariable`, `questCompleted`;
* `Store.hasItem`, `Store.questState`, `Store.sorted`.
-/

namespace Colloquy

/-- Names with values. -/
abbrev Store := Roster (Prod.fst : String × Value → String)

/-- The variable that tells whether the player holds an item. -/
def itemVariable (item : String) : String := "item_" ++ item

/-- The variable that tells the state of a quest. -/
def questVariable (quest : String) : String := "quest_" ++ quest

/-- The state of a completed quest. -/
def questCompleted : Value := .text "completed"

namespace Store

/-- The value of a variable. -/
def get? (store : Store) (name : String) : Option Value := (store.find? name).map Prod.snd

/-- The store with a variable set. -/
def set (store : Store) (name : String) (value : Value) : Store := store.put (name, value)

/-- Whether the player holds an item. -/
def hasItem (store : Store) (item : String) : Bool := Value.truthOf (get? store (itemVariable item))

/-- The state of a quest. -/
def questState (store : Store) (quest : String) : Option Value := get? store (questVariable quest)

/-- The variables in the order of their names. -/
def sorted (store : Store) : List (String × Value) :=
  store.toList.mergeSort fun a b => decide (a.1 ≤ b.1)

@[simp] theorem get?_empty (name : String) : get? Roster.empty name = none := rfl

/-- A look-up after a write. -/
theorem get?_set (store : Store) (name name' : String) (value : Value) :
    get? (set store name value) name' = if name = name' then some value else get? store name' := by
  simp only [get?, set, Roster.find?_put]
  split <;> rfl

@[simp] theorem get?_set_self (store : Store) (name : String) (value : Value) :
    get? (set store name value) name = some value := by
  simp [get?_set]

theorem get?_set_of_ne (store : Store) {name name' : String} (value : Value) (h : name ≠ name') :
    get? (set store name value) name' = get? store name' := by
  simp [get?_set, h]

end Store

end Colloquy
