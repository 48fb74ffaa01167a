/-!
# Rosters

A roster is a list of items with distinct keys, in the order in which the keys first came.

* `Roster`, with the keys' distinctness in the type;
* `find?`, `contains`, `keys`, `size`: look-up;
* `put` replaces the item with the same key in place or appends, `erase` takes an item out;
* `ofList` puts the items of a list one after the other.

The lemmas say what each operation does to a look-up and to the list of keys.
-/

namespace Colloquy

/-- Items with distinct keys in the order in which the keys first came. -/
structure Roster {α : Type} (key : α → String) where
  toList : List α
  distinct : (toList.map key).Nodup

namespace Roster

variable {α : Type} {key : α → String}

@[ext] theorem ext {r s : Roster key} (h : r.toList = s.toList) : r = s := by
  cases r
  cases s
  cases h
  rfl

instance [DecidableEq α] : DecidableEq (Roster key) := fun r s =>
  decidable_of_iff (r.toList = s.toList) ⟨ext, fun h => h ▸ rfl⟩

/-- The roster without items. -/
def empty : Roster key := ⟨[], List.nodup_nil⟩

instance : Inhabited (Roster key) := ⟨empty⟩

/-- The keys in order. -/
def keys (r : Roster key) : List String := r.toList.map key

/-- The number of items. -/
def size (r : Roster key) : Nat := r.toList.length

/-- Whether there are no items. -/
def isEmpty (r : Roster key) : Bool := r.toList.isEmpty

/-- The item with a key. -/
def find? (r : Roster key) (k : String) : Option α := r.toList.find? (key · == k)

/-- Whether there is an item with a key. -/
def contains (r : Roster key) (k : String) : Bool := (r.find? k).isSome

/-- The roster without the item that has the key. -/
def erase (r : Roster key) (k : String) : Roster key :=
  ⟨r.toList.filter (key · != k), (List.filter_sublist.map key).nodup r.distinct⟩

/-- The items with each item that has the key of `a` replaced by `a`. -/
def replaceIn (key : α → String) (a : α) (items : List α) : List α :=
  items.map fun b => if key b = key a then a else b

theorem map_key_replaceIn (a : α) (items : List α) :
    (replaceIn key a items).map key = items.map key := by
  simp only [replaceIn, List.map_map]
  apply List.map_congr_left
  intro b _
  by_cases h : key b = key a <;> simp [h]

theorem contains_iff (r : Roster key) (k : String) : r.contains k = true ↔ k ∈ r.keys := by
  simp [contains, find?, keys]

/-- Put an item in place of the one with the same key, or behind the others. -/
def put (r : Roster key) (a : α) : Roster key :=
  if h : r.contains (key a) then
    ⟨replaceIn key a r.toList, by rw [map_key_replaceIn]; exact r.distinct⟩
  else
    ⟨r.toList ++ [a], by
      have hk : key a ∉ r.toList.map key := fun hm => h ((contains_iff r _).mpr hm)
      rw [List.map_append, List.map_singleton, List.nodup_append]
      exact ⟨r.distinct, by simp, fun x hx y hy hxy => hk (by simp_all)⟩⟩

/-- Put the items of a list one after the other. -/
def ofList (items : List α) : Roster key := items.foldl put empty

/-! ### Look-ups -/

@[simp] theorem toList_empty : (empty : Roster key).toList = [] := rfl
@[simp] theorem keys_empty : (empty : Roster key).keys = [] := rfl
@[simp] theorem find?_empty (k : String) : (empty : Roster key).find? k = none := rfl
@[simp] theorem ofList_nil : (ofList [] : Roster key) = empty := rfl

@[simp] theorem length_keys (r : Roster key) : r.keys.length = r.size := by
  simp [keys, size]

theorem nodup_keys (r : Roster key) : r.keys.Nodup := r.distinct

theorem key_of_find? {r : Roster key} {k : String} {a : α} (h : r.find? k = some a) :
    key a = k := by
  simpa using List.find?_some h

theorem mem_of_find? {r : Roster key} {k : String} {a : α} (h : r.find? k = some a) :
    a ∈ r.toList :=
  List.mem_of_find?_eq_some h

/-- An item is found by its key. -/
theorem find?_of_mem {r : Roster key} {a : α} (h : a ∈ r.toList) : r.find? (key a) = some a := by
  obtain ⟨before, after, hr⟩ := List.append_of_mem h
  have hd := r.distinct
  rw [hr, List.map_append, List.nodup_append] at hd
  rw [find?, List.find?_eq_some_iff_append]
  refine ⟨by simp, before, after, hr, fun b hb => ?_⟩
  have hne : key b ≠ key a := hd.2.2 _ (List.mem_map_of_mem hb) _ (by simp)
  simpa using hne

theorem find?_replaceIn (a : α) (items : List α) (k : String) (h : key a ∈ items.map key) :
    (replaceIn key a items).find? (key · == k) =
      if key a = k then some a else items.find? (key · == k) := by
  have hp : ((key · == k) ∘ fun b => if key b = key a then a else b) = (key · == k) := by
    funext b
    by_cases hb : key b = key a <;> simp [hb]
  rw [replaceIn, List.find?_map, hp]
  cases hf : items.find? (key · == k) with
  | none =>
    have : key a ≠ k := by
      obtain ⟨b, hb, hba⟩ := List.mem_map.mp h
      rintro rfl
      exact absurd hba (by simpa using List.find?_eq_none.mp hf b hb)
    simp [this]
  | some b =>
    have hb : key b = k := by simpa using List.find?_some hf
    by_cases hk : key a = k
    · simp [hb, hk]
    · simp [hb, hk, Ne.symm hk]

/-- A look-up after a write. -/
theorem find?_put (r : Roster key) (a : α) (k : String) :
    (r.put a).find? k = if key a = k then some a else r.find? k := by
  unfold put
  split
  · next h => exact find?_replaceIn a r.toList k ((contains_iff r _).mp h)
  · next h =>
    simp only [find?, List.find?_append]
    by_cases hk : key a = k
    · have : r.toList.find? (key · == k) = none := by
        simpa [contains, find?, hk] using h
      simp [this, hk]
    · simp [hk]

@[simp] theorem find?_put_self (r : Roster key) (a : α) : (r.put a).find? (key a) = some a := by
  simp [find?_put]

/-- A look-up after a removal. -/
theorem find?_erase (r : Roster key) (k k' : String) :
    (r.erase k).find? k' = if k = k' then none else r.find? k' := by
  simp only [find?, erase, List.find?_filter]
  by_cases hk : k = k'
  · simp [hk]
  · simp only [hk, if_false]
    congr 1
    funext b
    by_cases hb : key b = k'
    · simp [hb, Ne.symm hk]
    · simp [hb]

/-- The keys after a write: a new key comes last, an old one keeps its place. -/
theorem keys_put (r : Roster key) (a : α) :
    (r.put a).keys = if r.contains (key a) then r.keys else r.keys ++ [key a] := by
  unfold put
  split <;> simp [keys, map_key_replaceIn]

theorem mem_keys_put (r : Roster key) (a : α) (k : String) :
    k ∈ (r.put a).keys ↔ k = key a ∨ k ∈ r.keys := by
  rw [keys_put]
  split
  · next h =>
    have := (contains_iff r _).mp h
    constructor
    · exact Or.inr
    · rintro (rfl | h') <;> assumption
  · simp [or_comm]

end Roster

end Colloquy
