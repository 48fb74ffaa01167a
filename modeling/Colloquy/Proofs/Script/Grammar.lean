import Mathlib.Logic.Function.Basic

/-!
# Grammars

A language in which texts are written in forms of several shapes, with a reader for each shape.  If
no text is written in two ways and each reader accepts just the forms of its shape, then a text has
one reading, and it does not matter in which order the readers are tried.

* `Grammar`, `Grammar.read`: the forms, their readers, and the first reader that accepts a text;
* `Grammar.read_text`: every form is read as what it means;
* `Grammar.read_eq_iff`: all readings, in any order of the shapes;
* `Grammar.read_congr`: the order of the shapes does not matter.
-/

namespace Colloquy

/-- Forms of several shapes, what they mean, and the readers of the shapes. -/
structure Grammar (Form Shape ρ : Type) where
  text : Form → List Char
  shape : Form → Shape
  meaning : Form → ρ
  /-- What a text in none of the forms is read as. -/
  otherwise : List Char → ρ
  read? : Shape → List Char → Option ρ
  unambiguous : Function.Injective text
  read?_eq_some_iff : ∀ {k : Shape} {s : List Char} {r : ρ},
    read? k s = some r ↔ ∃ form, shape form = k ∧ text form = s ∧ meaning form = r

namespace Grammar

variable {Form Shape ρ : Type} (G : Grammar Form Shape ρ) {order order' : List Shape}
  {s : List Char} {r : ρ}

/-- Read a text as the first shape of a list that has a form of it. -/
def read (order : List Shape) (s : List Char) : ρ :=
  (order.findSome? (G.read? · s)).getD (G.otherwise s)

/-- Whichever reader accepts a form, it reads what the form means. -/
theorem eq_meaning_of_read? {k : Shape} {form : Form} (h : G.read? k (G.text form) = some r) :
    r = G.meaning form := by
  obtain ⟨form', -, htext, rfl⟩ := G.read?_eq_some_iff.mp h
  rw [G.unambiguous htext]

/-- Every form is read as what it means. -/
theorem read_text (all : ∀ k, k ∈ order) (form : Form) :
    G.read order (G.text form) = G.meaning form := by
  cases hfirst : order.findSome? (G.read? · (G.text form)) with
  | none =>
    -- the reader of the form's own shape accepts it
    have hown := G.read?_eq_some_iff.mpr ⟨form, rfl, rfl, rfl⟩
    rw [List.findSome?_eq_none_iff.mp hfirst (G.shape form) (all _)] at hown
    cases hown
  | some r =>
    obtain ⟨k, -, hread⟩ := List.exists_of_findSome?_eq_some hfirst
    rw [read, hfirst, Option.getD_some, G.eq_meaning_of_read? hread]

/-- A text in none of the forms is read as such, in any order. -/
theorem read_of_forall_ne (h : ∀ form, G.text form ≠ s) : G.read order s = G.otherwise s := by
  have hnone : order.findSome? (G.read? · s) = none := by
    refine List.findSome?_eq_none_iff.mpr fun k _ => Option.eq_none_iff_forall_ne_some.mpr ?_
    intro r hread
    obtain ⟨form, -, htext, -⟩ := G.read?_eq_some_iff.mp hread
    exact h form htext
  rw [read, hnone, Option.getD_none]

/-- All readings of a text. -/
theorem read_eq_iff (all : ∀ k, k ∈ order) :
    G.read order s = r ↔
      (∃ form, G.text form = s ∧ G.meaning form = r) ∨
        (∀ form, G.text form ≠ s) ∧ G.otherwise s = r := by
  by_cases h : ∃ form, G.text form = s
  · obtain ⟨form, rfl⟩ := h
    rw [G.read_text all form]
    constructor
    · exact fun hmeaning => .inl ⟨form, rfl, hmeaning⟩
    · rintro (⟨form', htext, hmeaning⟩ | ⟨hnone, -⟩)
      · rw [← hmeaning, G.unambiguous htext]
      · exact absurd rfl (hnone form)
  · have hnone := not_exists.mp h
    rw [G.read_of_forall_ne hnone]
    constructor
    · exact fun hother => .inr ⟨hnone, hother⟩
    · rintro (⟨form, htext, -⟩ | ⟨-, hother⟩)
      · exact absurd htext (hnone form)
      · exact hother

/-- The order in which the shapes are tried does not matter. -/
theorem read_congr (all : ∀ k, k ∈ order) (all' : ∀ k, k ∈ order') :
    G.read order s = G.read order' s :=
  (G.read_eq_iff all).mpr ((G.read_eq_iff all').mp rfl)

end Grammar

end Colloquy
