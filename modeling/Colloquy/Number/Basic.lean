import Colloquy.Number.Double
import Colloquy.Number.Shortest

/-!
# Numbers

A number of a script is an integer of any size or a double.

* `Number`, `Number.compare?`, `Number.add`;
* `integerText`: an integer in decimal digits, as long as these are not too many.
-/

namespace Colloquy

/-- An integer of any size or a double. -/
inductive Number
  | integer (n : Int)
  | real (x : Double)
  deriving DecidableEq

namespace Number

/-- How a number compares with an integer, by exact values. -/
def compare? : Number → Int → Option Ordering
  | .integer m, n => some (compare m n)
  | .real x, n => x.compare? n

/-- A number increased by an integer.  Beside a double the integer becomes a double first, which
fails for an integer beyond the greatest one. -/
def add : Number → Int → Except NumberError Number
  | .integer m, n => .ok (.integer (m + n))
  | .real x, n =>
    match Double.ofInt? n with
    | some y => .ok (.real (x.add y))
    | none => .error .tooLargeForDouble

@[simp] theorem compare?_integer (m n : Int) : compare? (.integer m) n = some (compare m n) := rfl

@[simp] theorem add_integer (m n : Int) : add (.integer m) n = .ok (.integer (m + n)) := rfl

end Number

/-- The decimal digits of an integer, unless there are more than the limit. -/
def integerText (n : Int) : Except NumberError String :=
  if digitLimit < (Nat.toDigits 10 n.natAbs).length then .error .tooLongToWrite
  else .ok (toString n)

end Colloquy
