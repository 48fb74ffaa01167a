import Colloquy.Roster
import Mathlib.Data.List.Induction

/-!
# Rosters made of lists

Of several items with one key a roster made of a list keeps the last one, in the place of the first.

* `Roster.keys_ofList`: the keys without repetitions;
* `Roster.find?_ofList`, `find?_ofList_eq_some_iff`: the last item with a key;
* `Roster.toList_ofList`: a list with distinct keys is kept as it is;
* `Roster.put_put`: of two writes under one key the later one counts;
* `Roster.toList_ofList_map`: rosters of lists of which one is made of the other.
-/

namespace Colloquy.Roster

variable {α : Type} {key : α → String}

theorem eraseDups_append_singleton (ids : List String) (id : String) :
    (ids ++ [id]).eraseDups = if id ∈ ids then ids.eraseDups else ids.eraseDups ++ [id] := by
  rw [List.eraseDups_append]
  split
  · next h => simp [List.removeAll, h]
  · next h => simp [List.removeAll, h, List.eraseDups_cons]

theorem ofList_append_singleton (items : List α) (a : α) :
    (ofList (items ++ [a]) : Roster key) = (ofList items).put a := by
  simp only [ofList, List.foldl_append, List.foldl_cons, List.foldl_nil]

/-- Each key stands where it first came. -/
theorem keys_ofList (items : List α) :
    (ofList items : Roster key).keys = (items.map key).eraseDups := by
  induction items using List.reverseRecOn with
  | nil => rfl
  | append_singleton items a ih =>
    rw [ofList_append_singleton, keys_put, List.map_append, List.map_singleton,
      eraseDups_append_singleton, ih]
    simp only [contains_iff, ih, List.mem_eraseDups]

/-- The last item with a key is found. -/
theorem find?_ofList (items : List α) (k : String) :
    (ofList items : Roster key).find? k = items.reverse.find? (key · == k) := by
  induction items using List.reverseRecOn with
  | nil => rfl
  | append_singleton items a ih =>
    rw [ofList_append_singleton, find?_put, ih, List.reverse_append, List.reverse_singleton,
      List.singleton_append]
    by_cases h : key a = k
    · rw [if_pos h, List.find?_cons_of_pos (by simpa using h)]
    · rw [if_neg h, List.find?_cons_of_neg (by simpa using h)]

theorem find?_ofList_eq_some_iff {items : List α} {k : String} {a : α} :
    (ofList items : Roster key).find? k = some a ↔
      key a = k ∧ ∃ before after, items = before ++ a :: after ∧ ∀ b ∈ after, key b ≠ k := by
  rw [find?_ofList, List.find?_eq_some_iff_append, beq_iff_eq]
  refine and_congr_right fun _ => ?_
  constructor
  · rintro ⟨after, before, h, hafter⟩
    refine ⟨before.reverse, after.reverse, ?_, fun b hb => ?_⟩
    · rw [← List.reverse_reverse items, h]
      simp
    · simpa using hafter b (List.mem_reverse.mp hb)
  · rintro ⟨before, after, rfl, hafter⟩
    refine ⟨after.reverse, before.reverse, by simp, fun b hb => ?_⟩
    simpa using hafter b (List.mem_reverse.mp hb)

theorem mem_of_mem_ofList {items : List α} {a : α} (h : a ∈ (ofList items : Roster key).toList) :
    a ∈ items := by
  obtain ⟨-, before, after, rfl, -⟩ := find?_ofList_eq_some_iff.mp (find?_of_mem h)
  exact List.mem_append_right _ List.mem_cons_self

theorem toList_put_of_new {r : Roster key} {a : α} (h : key a ∉ r.keys) :
    (r.put a).toList = r.toList ++ [a] := by
  rw [put, dif_neg (mt (contains_iff r _).mp h)]

/-- A list with distinct keys is kept as it is. -/
theorem toList_ofList {items : List α} (distinct : (items.map key).Nodup) :
    (ofList items : Roster key).toList = items := by
  induction items using List.reverseRecOn with
  | nil => rfl
  | append_singleton items a ih =>
    rw [List.map_append, List.nodup_append] at distinct
    have hnew : key a ∉ (ofList items : Roster key).keys := by
      rw [keys, ih distinct.1]
      exact fun h => distinct.2.2 _ h _ (by simp) rfl
    rw [ofList_append_singleton, toList_put_of_new hnew, ih distinct.1]

theorem toList_put (r : Roster key) (a : α) :
    (r.put a).toList =
      if r.contains (key a) then replaceIn key a r.toList else r.toList ++ [a] := by
  unfold put
  split <;> rfl

/-- Of two writes under one key the later one counts. -/
theorem put_put {a b : α} (h : key a = key b) (r : Roster key) : (r.put a).put b = r.put b := by
  have hcontains : (r.put a).contains (key b) = true :=
    (contains_iff _ _).mpr ((mem_keys_put r a _).mpr (.inl h.symm))
  refine ext ?_
  rw [toList_put, if_pos hcontains, toList_put, toList_put, h]
  split
  · refine (List.map_map ..).trans (List.map_congr_left fun c _ => ?_)
    by_cases hc : key c = key b <;> simp [hc, h]
  · next hnew =>
    -- no other item has the key, so only the new one is replaced
    have hkeep : replaceIn key b r.toList = r.toList := by
      refine (List.map_congr_left fun c hc => if_neg fun same => hnew ?_).trans (List.map_id _)
      exact same ▸ (contains_iff r _).mpr (List.mem_map_of_mem hc)
    rw [replaceIn, List.map_append, ← replaceIn, hkeep, List.map_singleton, if_pos h]

/-- What keeps the keys can be done before or after a write. -/
theorem toList_put_map {β : Type} {key' : β → String} {f : α → β}
    (hkey : ∀ a, key' (f a) = key a) {r : Roster key}
    {s : Roster key'} (h : s.toList = r.toList.map f) (a : α) :
    (s.put (f a)).toList = (r.put a).toList.map f := by
  have hcontains : s.contains (key' (f a)) = r.contains (key a) := by
    simp only [contains, find?, h, hkey, List.find?_map, Function.comp_def, Option.isSome_map]
  rw [toList_put, toList_put, hcontains, h]
  split
  · simp only [replaceIn, List.map_map, Function.comp_def, hkey, apply_ite f]
  · rw [List.map_append, List.map_singleton]

/-- What keeps the keys can be done before or after a list is made a roster. -/
theorem toList_ofList_map {β : Type} {key' : β → String} {f : α → β}
    (hkey : ∀ a, key' (f a) = key a) (items : List α) :
    (ofList (items.map f) : Roster key').toList = (ofList items : Roster key).toList.map f := by
  induction items using List.reverseRecOn with
  | nil => rfl
  | append_singleton items a ih =>
    rw [List.map_append, List.map_singleton, ofList_append_singleton, ofList_append_singleton]
    exact toList_put_map hkey ih a
end Colloquy.Roster
