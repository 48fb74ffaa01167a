/-!
# Classes of characters

A class of characters is a list of ranges of code points, both ends included.

* `CharClass`, `CharClass.contains`;
* `contains_iff`: a character is in a class exactly if one of the ranges holds its code point.
-/

namespace Colloquy.Text

/-- Ranges of code points, each given by its first and its last one. -/
abbrev CharClass := List (Nat × Nat)

namespace CharClass

/-- Whether one of the ranges holds the character. -/
def contains (ranges : CharClass) (c : Char) : Bool :=
  ranges.any fun range => range.1 ≤ c.toNat && c.toNat ≤ range.2

theorem contains_iff (ranges : CharClass) (c : Char) :
    ranges.contains c = true ↔ ∃ r ∈ ranges, r.1 ≤ c.toNat ∧ c.toNat ≤ r.2 := by
  simp [contains]

@[simp] theorem contains_nil (c : Char) : contains [] c = false := rfl

@[simp] theorem contains_cons (r : Nat × Nat) (ranges : CharClass) (c : Char) :
    contains (r :: ranges) c =
      (decide (r.1 ≤ c.toNat) && decide (c.toNat ≤ r.2) || ranges.contains c) := rfl

end CharClass

end Colloquy.Text
