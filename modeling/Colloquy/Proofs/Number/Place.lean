import Mathlib.Algebra.Order.Ring.Rat
import Mathlib.Data.Rat.Cast.Order
import Mathlib.Order.Compare
import Mathlib.Order.WithBot
import Colloquy.Number.Basic

/-!
# Places of numbers

Where a number stands among the rational numbers: a finite one at its exact value, an infinite one
below or above all of them, and what is not a number nowhere.  Numbers compare with integers as
their places do, so they are in order wherever they have one.

* `Place`, `Place.ofRat`: the rational numbers with a least and a greatest element;
* `Double.place?`, `Number.place?`: the place of a number;
* `Number.place?_eq_none_iff`: only what is not a number has none;
* `Number.compare?_of_place`: numbers compare as their places do.
-/

namespace Colloquy

/-- The rational numbers with a least and a greatest element. -/
abbrev Place : Type := WithBot (WithTop ℚ)

/-- The place of a rational number. -/
def Place.ofRat (q : ℚ) : Place := ((q : WithTop ℚ) : WithBot (WithTop ℚ))

theorem Place.strictMono_ofRat : StrictMono Place.ofRat :=
  WithBot.coe_strictMono.comp WithTop.coe_strictMono

theorem Place.ofRat_injective : Function.Injective Place.ofRat := strictMono_ofRat.injective

theorem Place.ofRat_le_ofInt {m n : Int} (h : m ≤ n) : ofRat m ≤ ofRat n :=
  strictMono_ofRat.monotone (Int.cast_le.mpr h)

/-- The place of a double. -/
def Double.place? : Double → Option Place
  | .finite negative rank => some (.ofRat (signed negative rank))
  | .infinity true => some ⊥
  | .infinity false => some ⊤
  | .nan => none

/-- The place of a number. -/
def Number.place? : Number → Option Place
  | .integer n => some (.ofRat n)
  | .real x => x.place?

variable {p : Place} {x : Double} {number : Number}

@[simp] theorem Number.place?_integer (n : Int) : place? (.integer n) = some (.ofRat n) := rfl

/-- Only what is not a number has no place. -/
theorem Number.place?_eq_none_iff : number.place? = none ↔ number = .real .nan := by
  rcases number with _ | _ | (_ | _) | _ <;> simp [place?, Double.place?]

theorem Number.exists_place (h : number ≠ .real .nan) : ∃ p, number.place? = some p :=
  Option.ne_none_iff_exists'.mp (mt place?_eq_none_iff.mp h)

/-! ### Comparing places -/

theorem Double.compareRat_eq_cmp (a b : ℚ) : compareRat a b = cmp a b := by
  unfold compareRat cmp cmpUsing
  rcases lt_trichotomy a b with less | rfl | greater
  · simp [less]
  · simp
  · simp [greater, greater.asymm, greater.ne']

theorem Double.compare?_of_place (h : x.place? = some p) (q : ℚ) :
    x.compare? q = some (cmp p (.ofRat q)) := by
  rcases x with ⟨negative, rank⟩ | (_ | _) | _
  · cases h
    rw [compare?, compareRat_eq_cmp, Place.strictMono_ofRat.cmp_map_eq]
  · cases h
    exact congrArg some (WithBot.coe_lt_coe.mpr (WithTop.coe_lt_top q)).cmp_eq_gt.symm
  · cases h
    exact congrArg some (WithBot.bot_lt_coe _).cmp_eq_lt.symm
  · cases h

/-- A number compares with an integer as its place does. -/
theorem Number.compare?_of_place (h : number.place? = some p) (n : Int) :
    number.compare? n = some (cmp p (.ofRat n)) := by
  cases number with
  | integer m =>
    cases h
    rw [compare?_integer, Place.strictMono_ofRat.cmp_map_eq,
      Int.cast_strictMono.cmp_map_eq, cmp_eq_compare]
  | real x => exact Double.compare?_of_place h n

end Colloquy
