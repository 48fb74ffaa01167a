import Colloquy.Json.Basic
import Mathlib.Data.List.Basic

/-!
# Members that are kept

Objects of which only the members with known keys are kept, in the order of these keys.

* `keep`: the members with known keys;
* `onMembers`, `onItems`, `onValues`: the same for objects within a value;
* `getMember?_keep`, `getMember?_keep_nested`: what is found under a known key;
* `keep_congr`: nothing else than the values under known keys is kept.
-/

namespace Colloquy.Json

variable {plain : List String} {nested : List (String × (Json → Json))} {key : String}
  {f : Json → Json}

/-- The members with the keys of some fields, their values changed as the fields say. -/
def keepFields (fields : List (String × (Json → Json))) (members : Members) : Members :=
  fields.filterMap fun field => (getMember? members field.1).map fun value =>
    (field.1, field.2 value)

/-- The members with known keys; the values under nested keys are changed. -/
def keep (plain : List String) (nested : List (String × (Json → Json))) : Members → Members :=
  keepFields (plain.map (·, id) ++ nested)

/-- A value with its members changed, if it is an object. -/
def onMembers (f : Members → Members) : Json → Json
  | .object members => .object (f members)
  | value => value

/-- A value with the members of its items changed, if it is a list. -/
def onItems (f : Members → Members) : Json → Json
  | .list items => .list (items.map (onMembers f))
  | value => value

/-- A value with the members of its values changed, if it is an object. -/
def onValues (f : Members → Members) : Json → Json
  | .object members => .object (members.map fun member => (member.1, onMembers f member.2))
  | value => value

theorem getMember?_keepFields (fields : List (String × (Json → Json))) (members : Members)
    (key : String) :
    getMember? (keepFields fields members) key =
      (fields.lookup key).bind fun f => (getMember? members key).map f := by
  induction fields with
  | nil => rfl
  | cons field rest ih =>
    obtain ⟨k, f⟩ := field
    rw [keepFields, List.filterMap_cons, ← keepFields, List.lookup_cons]
    by_cases hk : key = k
    · subst hk
      cases h : getMember? members key with
      | none => simpa [h] using ih
      | some value => simp [getMember?_cons]
    · have hbeq : (key == k) = false := beq_false_of_ne hk
      cases h : getMember? members k with
      | none => simpa [hbeq] using ih
      | some value => simpa [hbeq, getMember?_cons, Ne.symm hk] using ih

theorem lookup_map_id (h : key ∈ plain) (nested : List (String × (Json → Json))) :
    (plain.map (·, id) ++ nested).lookup key = some id := by
  induction plain with
  | nil => cases h
  | cons k rest ih =>
    rw [List.map_cons, List.cons_append, List.lookup_cons]
    by_cases hk : key = k
    · simp [hk]
    · simpa [beq_false_of_ne hk] using ih ((List.mem_cons.mp h).resolve_left hk)

/-- The values under plain keys are kept as they are. -/
theorem getMember?_keep (h : key ∈ plain) (nested : List (String × (Json → Json)))
    (members : Members) :
    getMember? (keep plain nested members) key = getMember? members key := by
  rw [keep, getMember?_keepFields, lookup_map_id h, Option.bind_some, Option.map_id, id]

/-- The values under nested keys are kept and changed. -/
theorem getMember?_keep_nested (h : (plain.map (·, id) ++ nested).lookup key = some f)
    (members : Members) :
    getMember? (keep plain nested members) key = (getMember? members key).map f := by
  rw [keep, getMember?_keepFields, h, Option.bind_some]

/-- What is kept depends on what is found under known keys. -/
theorem keep_congr {members members' : Members}
    (hplain : ∀ key ∈ plain, getMember? members key = getMember? members' key)
    (hnested : ∀ field ∈ nested,
      (getMember? members field.1).map field.2 = (getMember? members' field.1).map field.2) :
    keep plain nested members = keep plain nested members' := by
  have hpair (field : String × (Json → Json)) (members : Members) :
      ((getMember? members field.1).map fun value => (field.1, field.2 value)) =
        ((getMember? members field.1).map field.2).map (Prod.mk field.1) := by
    rw [Option.map_map]
    rfl
  refine List.filterMap_congr fun field hfield => ?_
  rw [hpair, hpair]
  refine congrArg _ ?_
  rcases List.mem_append.mp hfield with h | h
  · obtain ⟨key, hkey, rfl⟩ := List.mem_map.mp h
    rw [hplain key hkey]
  · exact hnested field h

end Colloquy.Json
