import Colloquy.Json.Basic
import Mathlib.Data.List.Find
import Mathlib.Data.List.Induction
import Mathlib.Data.List.Nodup

/-!
# Look-ups in objects

What is found under a key once the keys of an object have their one spelling.  Where two members
come to have one key the last of them counts; where the keys are distinct the order of the members
does not matter.

* `lastMember?`: the value of the last member with a key;
* `getMember?_renameMembers`: what is found under a key after keys were given other names;
* `Spells`: members that are fields in some order, with keys in any spelling.
-/

namespace Colloquy.Json

variable {rename : String → String} {members fields before after : Members} {key k : String}
  {value : Json}

/-- The value of the last member with a key. -/
def lastMember? (members : Members) (key : String) : Option Json :=
  getMember? members.reverse key

/-! ### Members before and after others -/

theorem getMember?_append (before after : Members) (key : String) :
    getMember? (before ++ after) key = (getMember? before key).or (getMember? after key) := by
  simp only [getMember?, List.find?_append, Option.map_or]

theorem getMember?_cons_of_ne (h : k ≠ key) :
    getMember? ((k, value) :: members) key = getMember? members key := by
  rw [getMember?_cons, if_neg h]

/-- A member is not seen by look-ups under other keys. -/
theorem getMember?_insert_of_ne (h : k ≠ key) :
    getMember? (before ++ (k, value) :: after) key = getMember? (before ++ after) key := by
  rw [getMember?_append, getMember?_cons_of_ne h, getMember?_append]

theorem lastMember?_append_singleton (members : Members) (k : String) (value : Json)
    (key : String) :
    lastMember? (members ++ [(k, value)]) key =
      if k = key then some value else lastMember? members key := by
  rw [lastMember?, List.reverse_append, List.reverse_singleton, List.singleton_append,
    getMember?_cons, lastMember?]

theorem lastMember?_insert_of_ne (h : k ≠ key) :
    lastMember? (before ++ (k, value) :: after) key = lastMember? (before ++ after) key := by
  unfold lastMember?
  rw [List.reverse_append, List.reverse_cons, List.append_assoc, List.singleton_append,
    getMember?_insert_of_ne h, List.reverse_append]

theorem getMember?_isSome_iff : (getMember? members key).isSome ↔ key ∈ members.map Prod.fst := by
  simp [getMember?]

theorem getMember?_eq_none_iff : getMember? members key = none ↔ key ∉ members.map Prod.fst := by
  rw [← getMember?_isSome_iff, Option.not_isSome_iff_eq_none]

/-- Only a later member with the same key counts before a member. -/
theorem lastMember?_middle (before after : Members) (key : String) (value : Json) :
    lastMember? (before ++ (key, value) :: after) key =
      (lastMember? after key).or (some value) := by
  unfold lastMember?
  rw [List.reverse_append, List.reverse_cons, List.append_assoc, List.singleton_append,
    getMember?_append, getMember?_cons, if_pos rfl]

/-! ### Order -/

/-- Where the keys are distinct the order of the members does not matter. -/
theorem getMember?_of_perm (h : members.Perm fields) (distinct : (fields.map Prod.fst).Nodup)
    (key : String) : getMember? members key = getMember? fields key := by
  unfold getMember?
  rw [← List.find?_eq_find?_of_perm h.symm]
  intro a ha b hb
  apply List.inj_on_of_nodup_map distinct ha.1 hb.1
  rw [eq_of_beq ha.2, eq_of_beq hb.2]

/-! ### Spellings -/

theorem renameMembers_append_singleton (rename : String → String) (members : Members)
    (member : String × Json) :
    renameMembers rename (members ++ [member]) =
      putMember (rename member.1) member.2 (renameMembers rename members) := by
  simp only [renameMembers, List.foldl_append, List.foldl_cons, List.foldl_nil]

/-- Of the members that come to have a key the last one gives the value. -/
theorem getMember?_renameMembers (rename : String → String) (members : Members) (key : String) :
    getMember? (renameMembers rename members) key =
      lastMember? (members.map (Prod.map rename id)) key := by
  induction members using List.reverseRecOn with
  | nil => rfl
  | append_singleton members member ih =>
    rw [renameMembers_append_singleton, getMember?_putMember, ih, List.map_append]
    exact (lastMember?_append_singleton _ _ _ _).symm

theorem getMember?_renameMembers_insert_of_ne (h : rename k ≠ key) :
    getMember? (renameMembers rename (before ++ (k, value) :: after)) key =
      getMember? (renameMembers rename (before ++ after)) key := by
  rw [getMember?_renameMembers, getMember?_renameMembers, List.map_append, List.map_cons,
    List.map_append]
  exact lastMember?_insert_of_ne h

/-- A key that no other key is a spelling of. -/
theorem getMember?_renameMembers_of_iff (h : ∀ k, rename k = key ↔ k = key) :
    getMember? (renameMembers rename members) key = lastMember? members key := by
  rw [getMember?_renameMembers, lastMember?, lastMember?, ← List.map_reverse]
  have hp : ((fun member : String × Json => member.1 == key) ∘ Prod.map rename id) =
      fun member => member.1 == key := by
    funext member
    rw [Bool.eq_iff_iff]
    simpa using h member.1
  rw [getMember?, List.find?_map, hp, Option.map_map]
  rfl

/-- Members that are the given fields in some order, with keys in any spelling. -/
def Spells (rename : String → String) (members fields : Members) : Prop :=
  (members.map (Prod.map rename id)).Perm fields

/-- Under a key one finds the field, whatever the order and the spelling. -/
theorem Spells.getMember? (h : Spells rename members fields)
    (distinct : (fields.map Prod.fst).Nodup) (key : String) :
    getMember? (renameMembers rename members) key = Json.getMember? fields key := by
  rw [getMember?_renameMembers, lastMember?]
  exact getMember?_of_perm ((List.reverse_perm _).trans h) distinct key

/-- Fields are members if their keys have the one spelling. -/
theorem spells_self (h : ∀ field ∈ fields, rename field.1 = field.1) :
    Spells rename fields fields := by
  have : fields.map (Prod.map rename id) = fields := by
    conv_rhs => rw [← List.map_id fields]
    exact List.map_congr_left fun field hfield => Prod.ext (h field hfield) rfl
  rw [Spells, this]

end Colloquy.Json
