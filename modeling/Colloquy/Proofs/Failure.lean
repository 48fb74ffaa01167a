/-!
# Failures

What a computation that may fail fails with, as a relation on its own: the failures of the parts
determine those of the whole.

* `FailsAs`: an account of all failures of a computation;
* `FirstFails`: the first failure in a list, for any account of how an item fails;
* `FailsAs.map`, `mapError`, `mapM`, `andThen`: the accounts of computations made of parts;
* `FailsAs.exists_ok_iff`: there is a result exactly if nothing fails;
* `FailsOnly`: what all failures of a computation have in common.
-/

namespace Colloquy

variable {α β ε δ : Type}

/-- A relation tells with what a computation fails. -/
def FailsAs (x : Except ε α) (fails : ε → Prop) : Prop := ∀ e, x = .error e ↔ fails e

/-- The first failure in a list.  The items before it do not fail, whatever comes behind it. -/
inductive FirstFails (fails : α → ε → Prop) : List α → ε → Prop
  | here {a : α} {rest : List α} {e : ε} (failure : fails a e) : FirstFails fails (a :: rest) e
  | later {a : α} {rest : List α} {e : ε} (whole : ∀ e', ¬ fails a e')
      (failure : FirstFails fails rest e) : FirstFails fails (a :: rest) e

variable {fails : ε → Prop} {x : Except ε α} {e : ε}

theorem map_eq_error_iff {g : α → β} : x.map g = .error e ↔ x = .error e := by
  cases x <;> simp [Except.map]

theorem mapError_eq_ok_iff {g : ε → δ} {a : α} : x.mapError g = .ok a ↔ x = .ok a := by
  cases x with
  | error e => exact ⟨nofun, nofun⟩
  | ok b => exact ⟨fun h => congrArg _ (Except.ok.inj h), fun h => congrArg _ (Except.ok.inj h)⟩

theorem mapError_eq_error_iff {g : ε → δ} {d : δ} :
    x.mapError g = .error d ↔ ∃ e, x = .error e ∧ d = g e := by
  cases x with
  | error e' =>
    constructor
    · intro h
      cases h
      exact ⟨e', rfl, rfl⟩
    · rintro ⟨e, h, rfl⟩
      cases h
      rfl
  | ok a =>
    refine ⟨nofun, ?_⟩
    rintro ⟨e, h, -⟩
    cases h

/-- In two steps either the first one fails or the second one does. -/
theorem bind_eq_error_iff {k : α → Except ε β} :
    (x >>= k) = .error e ↔ x = .error e ∨ ∃ a, x = .ok a ∧ k a = .error e := by
  cases x with
  | error e' =>
    constructor
    · intro h
      cases h
      exact .inl rfl
    · rintro (h | ⟨a, h, -⟩) <;> cases h
      rfl
  | ok a =>
    constructor
    · exact fun h => .inr ⟨a, rfl, h⟩
    · rintro (h | ⟨_, h, hk⟩) <;> cases h
      exact hk

/-- The first failure is that of an item. -/
theorem FirstFails.exists_mem {fails : α → ε → Prop} {items : List α}
    (failure : FirstFails fails items e) : ∃ a ∈ items, fails a e := by
  induction failure with
  | here failure => exact ⟨_, List.mem_cons_self, failure⟩
  | later _ _ ih =>
    obtain ⟨b, hb, hfails⟩ := ih
    exact ⟨b, List.mem_cons_of_mem _ hb, hfails⟩

/-- Some item fails exactly if there is a first failure. -/
theorem exists_firstFails_iff {fails : α → ε → Prop} {items : List α} :
    (∃ e, FirstFails fails items e) ↔ ∃ a ∈ items, ∃ e, fails a e := by
  constructor
  · rintro ⟨e, failure⟩
    obtain ⟨a, ha, hfails⟩ := failure.exists_mem
    exact ⟨a, ha, e, hfails⟩
  · rintro ⟨b, hb, hfails⟩
    induction items with
    | nil => cases hb
    | cons a rest ih =>
      -- the item that is known to fail need not be the first one that does
      by_cases hwhole : ∃ e, fails a e
      · obtain ⟨e, failure⟩ := hwhole
        exact ⟨e, .here failure⟩
      · rcases List.mem_cons.mp hb with rfl | hb
        · exact absurd hfails hwhole
        · obtain ⟨e, failure⟩ := ih hb
          exact ⟨e, .later (not_exists.mp hwhole) failure⟩

/-- Where all failures are the same one, it does not matter which item fails first. -/
theorem firstFails_same_iff {p : α → Prop} {e' : ε} {items : List α} :
    FirstFails (fun a e => p a ∧ e = e') items e ↔ (∃ a ∈ items, p a) ∧ e = e' := by
  constructor
  · intro failure
    obtain ⟨a, ha, hp, he⟩ := failure.exists_mem
    exact ⟨⟨a, ha, hp⟩, he⟩
  · rintro ⟨⟨a, ha, hp⟩, rfl⟩
    obtain ⟨e', failure⟩ : ∃ e', FirstFails (fun a e' => p a ∧ e' = e) items e' :=
      exists_firstFails_iff.mpr ⟨a, ha, e, hp, rfl⟩
    obtain ⟨-, -, -, rfl⟩ := failure.exists_mem
    exact failure

namespace FailsAs

/-- There is a result exactly if nothing fails. -/
theorem exists_ok_iff (h : FailsAs x fails) : (∃ a, x = .ok a) ↔ ∀ e, ¬ fails e := by
  simp only [← h _]
  cases x <;> simp

/-- Every computation is an account of its own failures. -/
theorem self (x : Except ε α) : FailsAs x fun e => x = .error e := fun _ => Iff.rfl

theorem not_of_ok (h : FailsAs x fails) {a : α} (hx : x = .ok a) : ∀ e, ¬ fails e :=
  h.exists_ok_iff.mp ⟨a, hx⟩

theorem congr {fails' : ε → Prop} (h : FailsAs x fails) (heq : ∀ e, fails e ↔ fails' e) :
    FailsAs x fails' := fun e => (h e).trans (heq e)

theorem map (h : FailsAs x fails) (g : α → β) : FailsAs (x.map g) fails := fun e =>
  map_eq_error_iff.trans (h e)

theorem mapError (h : FailsAs x fails) (g : ε → δ) :
    FailsAs (x.mapError g) fun e => ∃ e', fails e' ∧ e = g e' := by
  intro d
  simp only [← h _, mapError_eq_error_iff]

/-- The second step fails only with a result of the first one. -/
theorem andThen {k : α → Except ε β} {fails' : α → ε → Prop} (h : FailsAs x fails)
    (hk : ∀ a, FailsAs (k a) (fails' a)) :
    FailsAs (x >>= k) fun e => fails e ∨ ∃ a, x = .ok a ∧ fails' a e := fun e =>
  bind_eq_error_iff.trans (or_congr (h e) (exists_congr fun a => and_congr_right fun _ => hk a e))

/-- What is done for an item and then for the rest of a list. -/
theorem cons {γ : Type} {a : α} {rest : List α} {fails : α → ε → Prop} {x : Except ε β}
    {y : Except ε γ} (hx : FailsAs x (fails a)) (hy : FailsAs y (FirstFails fails rest))
    (g : β → γ → δ) :
    FailsAs (do let b ← x; let c ← y; return g b c) (FirstFails fails (a :: rest)) := by
  intro e
  have hrest (b : β) : (do let c ← y; return g b c) = .error e ↔ FirstFails fails rest e :=
    map_eq_error_iff.trans (hy e)
  rw [bind_eq_error_iff, hx e]
  simp only [hrest]
  constructor
  · rintro (failure | ⟨b, hb, failure⟩)
    · exact .here failure
    · exact .later (hx.not_of_ok hb) failure
  · rintro (failure | ⟨whole, failure⟩)
    · exact .inl failure
    · obtain ⟨b, hb⟩ := hx.exists_ok_iff.mpr whole
      exact .inr ⟨b, hb, failure⟩

/-- What is done for every item fails with the first failure. -/
theorem mapM {f : α → Except ε β} {fails : α → ε → Prop} (hf : ∀ a, FailsAs (f a) (fails a))
    (items : List α) : FailsAs (items.mapM f) (FirstFails fails items) := by
  induction items with
  | nil =>
    rw [List.mapM_nil]
    exact fun e => ⟨nofun, nofun⟩
  | cons a rest ih =>
    rw [List.mapM_cons]
    exact (hf a).cons ih _

end FailsAs

/-! ### What failures have in common -/

/-- All failures of a computation are of one sort. -/
def FailsOnly (x : Except ε α) (sort : ε → Prop) : Prop := ∀ e, x = .error e → sort e

namespace FailsOnly

variable {sort sort' : ε → Prop}

theorem ok (a : α) : FailsOnly (.ok a : Except ε α) sort := nofun

theorem imp (h : FailsOnly x sort) (himp : ∀ e, sort e → sort' e) : FailsOnly x sort' :=
  fun e he => himp e (h e he)

theorem bind {k : α → Except ε β} (h : FailsOnly x sort) (hk : ∀ a, FailsOnly (k a) sort) :
    FailsOnly (x >>= k) sort := by
  intro e he
  rcases bind_eq_error_iff.mp he with he | ⟨a, -, he⟩
  · exact h e he
  · exact hk a e he

theorem mapM {f : α → Except ε β} (hf : ∀ a, FailsOnly (f a) sort) (items : List α) :
    FailsOnly (items.mapM f) sort := by
  intro e he
  obtain ⟨a, -, ha⟩ :=
    ((FailsAs.mapM (fun a => .self (f a)) items e).mp he).exists_mem
  exact hf a e ha

end FailsOnly

/-- What can be done for every item can be done for all of them. -/
theorem exists_mapM_eq_ok {f : α → Except ε β} {items : List α}
    (h : ∀ a ∈ items, ∃ b, f a = .ok b) : ∃ bs, items.mapM f = .ok bs := by
  have haccount := FailsAs.mapM (fun a => .self (f a)) items
  refine haccount.exists_ok_iff.mpr fun e failure => ?_
  obtain ⟨a, ha, herror⟩ := failure.exists_mem
  obtain ⟨b, hb⟩ := h a ha
  rw [hb] at herror
  cases herror

end Colloquy
