import Mathlib.Data.List.Perm.Subperm
import Mathlib.Data.List.Nodup
import Std.Data.String.ToNat
import Colloquy.Script.Execution

/-!
# Free names

The name of a record is the first one, of a base and the base with the numbers from one on, that no
variable has.  There always is one: a store cannot have all of more names than it has variables.

* `suffixed_injective`: the names to choose from differ;
* `freeFrom_eq`: the search finds the first free name if there is one within its reach;
* `IsFirstFree`: a name is the first free one of a base;
* `isFirstFree_firstFree`: `firstFree` gives it.
-/

namespace Colloquy

/-- A name is the first of a base that no variable of a store has. -/
def IsFirstFree (store : Store) (base name : String) : Prop :=
  ∃ k, name = suffixed base k ∧ store.contains name = false ∧
    ∀ j < k, store.contains (suffixed base j) = true

variable {store : Store} {base name : String}

theorem IsFirstFree.not_contains (h : IsFirstFree store base name) :
    store.contains name = false :=
  h.choose_spec.2.1

theorem IsFirstFree.get?_eq_none (h : IsFirstFree store base name) :
    Store.get? store name = none := by
  rw [Store.get?, Option.map_eq_none_iff]
  simpa [Roster.contains] using h.not_contains

/-- No two of the names to choose from are the same. -/
theorem suffixed_injective (base : String) : Function.Injective (suffixed base) := by
  have hlonger (k : Nat) : base ≠ base ++ "_" ++ toString (k + 1) := by
    intro h
    have hlength := congrArg String.length h
    simp only [String.length_append] at hlength
    have hbar : "_".length = 1 := rfl
    omega
  intro i j h
  match i, j with
  | 0, 0 => rfl
  | 0, j + 1 => exact absurd h (hlonger j)
  | i + 1, 0 => exact absurd h.symm (hlonger i)
  | i + 1, j + 1 => exact Nat.repr_injective ((String.append_right_inj (base ++ "_")).mp h)

/-- The search finds the first free name if there is one within its reach. -/
theorem freeFrom_eq {taken : String → Bool} (base : String) (rounds k : Nat)
    (h : ∃ m, k ≤ m ∧ m ≤ k + rounds ∧ taken (suffixed base m) = false) :
    ∃ m, freeFrom taken base rounds k = suffixed base m ∧ taken (suffixed base m) = false ∧
      ∀ j, k ≤ j → j < m → taken (suffixed base j) = true := by
  induction rounds generalizing k with
  | zero =>
    obtain ⟨m, hk, hm, hfree⟩ := h
    obtain rfl : m = k := by omega
    exact ⟨m, rfl, hfree, fun j hj hjm => by omega⟩
  | succ rounds ih =>
    rw [freeFrom]
    cases htaken : taken (suffixed base k) with
    | false => exact ⟨k, by simp, htaken, fun j hj hjk => by omega⟩
    | true =>
      obtain ⟨m, hk, hm, hfree⟩ := h
      -- the name at hand is taken, so the free one comes later
      have hne : m ≠ k := by
        rintro rfl
        rw [htaken] at hfree
        cases hfree
      obtain ⟨m', hfound, hfree', hfirst⟩ := ih (k + 1) ⟨m, by omega, by omega, hfree⟩
      refine ⟨m', by simpa using hfound, hfree', fun j hj hjm => ?_⟩
      by_cases hjk : j = k
      · rw [hjk, htaken]
      · exact hfirst j (by omega) hjm

/-- Of one name more than there are variables one is free. -/
theorem exists_free (store : Store) (base : String) :
    ∃ m ≤ store.size, store.contains (suffixed base m) = false := by
  by_contra hnone
  have hall : ∀ m ≤ store.size, store.contains (suffixed base m) = true := by
    simpa using hnone
  have hnodup : ((List.range (store.size + 1)).map (suffixed base)).Nodup :=
    List.nodup_range.map (suffixed_injective base)
  have hsubset : (List.range (store.size + 1)).map (suffixed base) ⊆ store.keys := by
    intro name hname
    obtain ⟨m, hm, rfl⟩ := List.mem_map.mp hname
    rw [List.mem_range] at hm
    exact (Roster.contains_iff store _).mp (hall m (by omega))
  have hlength := (hnodup.subperm hsubset).length_le
  rw [List.length_map, List.length_range, Roster.length_keys] at hlength
  omega

theorem isFirstFree_firstFree (store : Store) (base : String) :
    IsFirstFree store base (firstFree store base) := by
  obtain ⟨m, hm, hfree⟩ := exists_free store base
  obtain ⟨k, hfound, hfree', hfirst⟩ :=
    freeFrom_eq base store.size 0 ⟨m, by omega, by omega, hfree⟩
  rw [firstFree, hfound]
  exact ⟨k, rfl, hfree', fun j hj => hfirst j (by omega) hj⟩

/-- A base has one first free name. -/
theorem IsFirstFree.eq_firstFree (h : IsFirstFree store base name) :
    name = firstFree store base := by
  obtain ⟨j, rfl, hfree, hfirst⟩ := h
  obtain ⟨k, hfound, hfree', hfirst'⟩ := isFirstFree_firstFree store base
  rw [hfound] at hfree' ⊢
  rcases Nat.lt_trichotomy j k with hlt | rfl | hlt
  · rw [hfirst' j hlt] at hfree
    cases hfree
  · rfl
  · rw [hfirst k hlt] at hfree'
    cases hfree'

end Colloquy
