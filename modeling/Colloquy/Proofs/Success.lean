import Colloquy.Proofs.Failure
import Mathlib.Data.List.Forall2

/-!
# Successes

What a computation that may fail gives, told by what its parts give.

* `bind_eq_ok_iff`: two steps;
* `mapM_eq_ok_iff`: what is done for every item of a list;
* `mapM_map_eq`, `mapM_middle`: what the results depend on;
* `exists_mem_of_forall₂`, `map_eq_map_of_forall₂`, `exists_forall₂`, `exists_split_of_forall₂`,
  `forall₂_comp`: lists that agree one by one.
-/

namespace Colloquy

variable {α β ε : Type} {x : Except ε α} {b : β}

theorem map_eq_ok_iff {g : α → β} : x.map g = .ok b ↔ ∃ a, x = .ok a ∧ g a = b := by
  cases x <;> simp [Except.map]

/-- Two steps give a result exactly if both do. -/
theorem bind_eq_ok_iff {k : α → Except ε β} :
    (x >>= k) = .ok b ↔ ∃ a, x = .ok a ∧ k a = .ok b := by
  cases x with
  | error e =>
    refine ⟨nofun, ?_⟩
    rintro ⟨a, h, -⟩
    cases h
  | ok a =>
    constructor
    · exact fun h => ⟨a, rfl, h⟩
    · rintro ⟨a', h, hk⟩
      cases h
      exact hk

/-- What is done for every item gives the results one by one. -/
theorem mapM_eq_ok_iff {f : α → Except ε β} {items : List α} {results : List β} :
    items.mapM f = .ok results ↔ List.Forall₂ (fun a b => f a = .ok b) items results := by
  induction items generalizing results with
  | nil =>
    rw [List.mapM_nil, List.forall₂_nil_left_iff]
    exact ⟨fun h => (Except.ok.inj h).symm, fun h => h ▸ rfl⟩
  | cons a rest ih =>
    simp only [List.mapM_cons, bind_eq_ok_iff, List.forall₂_cons_left_iff, ih]
    constructor
    · rintro ⟨b, hb, bs, hbs, h⟩
      exact ⟨b, bs, hb, hbs, (Except.ok.inj h).symm⟩
    · rintro ⟨b, bs, hb, hbs, rfl⟩
      exact ⟨b, hb, bs, hbs, rfl⟩

/-- Lists that agree one by one: to every item of the one there is an item of the other. -/
theorem exists_mem_of_forall₂ {R : α → β → Prop} {items : List α} {results : List β}
    (h : List.Forall₂ R items results) {a : α} (ha : a ∈ items) : ∃ b ∈ results, R a b := by
  induction h with
  | nil => cases ha
  | cons hab _ ih =>
    rcases List.mem_cons.mp ha with rfl | ha
    · exact ⟨_, List.mem_cons_self, hab⟩
    · obtain ⟨b, hb, h⟩ := ih ha
      exact ⟨b, List.mem_cons_of_mem _ hb, h⟩

theorem map_eq_map_of_forall₂ {δ : Type} {R : α → β → Prop} {f : α → δ} {g : β → δ} {items : List α}
    {results : List β} (h : List.Forall₂ R items results) (hR : ∀ a b, R a b → f a = g b) :
    items.map f = results.map g := by
  induction h with
  | nil => rfl
  | cons hab _ ih => rw [List.map_cons, List.map_cons, hR _ _ hab, ih]

theorem forall₂_map_self {R : α → β → Prop} {f : α → β} {items : List α}
    (h : ∀ a ∈ items, R a (f a)) : List.Forall₂ R items (items.map f) :=
  List.forall₂_map_right_iff.mpr (List.forall₂_same.mpr h)

/-- What can be done for every item can be done for all of them, one by one. -/
theorem exists_forall₂ {δ : Type} {R : α → β → Prop} {P : β → δ → Prop} {Q : α → δ → Prop}
    {items : List α} {others : List β} (h : List.Forall₂ R items others)
    (hR : ∀ a b, R a b → ∃ d, P b d ∧ Q a d) :
    ∃ results, List.Forall₂ P others results ∧ List.Forall₂ Q items results := by
  induction h with
  | nil => exact ⟨[], .nil, .nil⟩
  | cons hab _ ih =>
    obtain ⟨d, hP, hQ⟩ := hR _ _ hab
    obtain ⟨results, hPs, hQs⟩ := ih
    exact ⟨d :: results, .cons hP hPs, .cons hQ hQs⟩

/-- Where one list is split at an item the other one can be split too. -/
theorem exists_split_of_forall₂ {R : α → β → Prop} {items : List α} {before after : List β} {b : β}
    (h : List.Forall₂ R items (before ++ b :: after)) :
    ∃ before' a after', items = before' ++ a :: after' ∧ R a b ∧ List.Forall₂ R after' after := by
  induction before generalizing items with
  | nil =>
    obtain ⟨a, rest, hab, hrest, rfl⟩ := List.forall₂_cons_right_iff.mp h
    exact ⟨[], a, rest, rfl, hab, hrest⟩
  | cons c before ih =>
    obtain ⟨d, rest, -, hrest, rfl⟩ := List.forall₂_cons_right_iff.mp h
    obtain ⟨before', a, after', rfl, hab, hafter⟩ := ih hrest
    exact ⟨d :: before', a, after', rfl, hab, hafter⟩

/-- What agrees with what agrees with a list. -/
theorem forall₂_comp {δ : Type} {R : α → β → Prop} {S : β → δ → Prop} {T : α → δ → Prop}
    {as : List α} {bs : List β} {ds : List δ} (h : List.Forall₂ R as bs)
    (h' : List.Forall₂ S bs ds) (hT : ∀ a b d, R a b → S b d → T a d) : List.Forall₂ T as ds := by
  induction h generalizing ds with
  | nil =>
    cases h'
    exact .nil
  | cons hab _ ih =>
    cases h' with
    | cons hbd hrest => exact .cons (hT _ _ _ hab hbd) (ih hrest)

/-- What gives a result for every item. -/
theorem mapM_eq_ok_map {f : α → Except ε β} {g : α → β} {items : List α}
    (h : ∀ a ∈ items, f a = .ok (g a)) : items.mapM f = .ok (items.map g) := by
  rw [mapM_eq_ok_iff]
  exact forall₂_map_self h

/-- What is done to every result can be done in the end. -/
theorem mapM_map_eq {δ : Type} (f : α → Except ε β) (g : β → δ) (items : List α) :
    items.mapM (fun a => (f a).map g) = (items.mapM f).map (List.map g) := by
  induction items with
  | nil => rfl
  | cons a rest ih =>
    rw [List.mapM_cons, List.mapM_cons, ih]
    cases f a with
    | error e => rfl
    | ok b => cases rest.mapM f <;> rfl

/-- An item may give way to one that gives the same result. -/
theorem mapM_middle {f : α → Except ε β} {a a' : α} (same : f a = f a') (before after : List α) :
    (before ++ a :: after).mapM f = (before ++ a' :: after).mapM f := by
  simp only [List.mapM_append, List.mapM_cons, same]

end Colloquy
