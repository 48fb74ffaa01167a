import Colloquy.Number.Error

/-!
# Double precision numbers

The numbers of the binary format with 53 significant bits and exponents from -1074 to 971, with
signed zeros, signed infinities and one value that is not a number.

* `Double`: the magnitude of a finite number is its rank among all finite magnitudes;
* `magnitude`, `signed`: the exact rational value of a finite number;
* `ofMagnitude`, `ofRat`, `ofInt?`: the nearest double, ties to the even one;
* `add`, `mul`: the exact result, rounded once;
* `compare?`: the exact order, in which what is not a number has no place;
* `toInt`: the nearest integer, ties to the even one.
-/

namespace Colloquy

/-- The nearest integer; of two equally near ones the even one. -/
def roundEven (q : Rat) : Int :=
  let below := q.floor
  let part := q - below
  if part < 1 / 2 then below
  else if 1 / 2 < part then below + 1
  else if below % 2 = 0 then below
  else below + 1

/-- The greatest integer `k` with `2 ^ k ≤ q`, for a positive `q`. -/
def log2Floor (q : Rat) : Int :=
  let k : Int := q.num.natAbs.log2 - q.den.log2
  if (2 : Rat) ^ k ≤ q then k else k - 1

/-- A double precision number.  Finite magnitudes are counted from zero upwards: rank `n + 1` is the
next magnitude after rank `n`. -/
inductive Double
  | finite (negative : Bool) (rank : Fin 0x7FF0000000000000)
  | infinity (negative : Bool)
  | nan
  deriving DecidableEq

namespace Double

/-- The zero without a sign. -/
def zero : Double := .finite false 0

/-- The zero of either sign. -/
def signedZero (negative : Bool) : Double := .finite negative 0

/-- The number of magnitudes between a power of two and the next one: two to the power of 52. -/
def octave : Nat := 0x10000000000000

/-- The integer significand of the magnitude of a rank. -/
def significand (rank : Nat) : Nat := if rank < octave then rank else octave + rank % octave

/-- The exponent of two that goes with the significand. -/
def exponent (rank : Nat) : Int := (max (rank / octave) 1 : Nat) - 1075

/-- The magnitude of a rank. -/
def magnitude (rank : Nat) : Rat := significand rank * (2 : Rat) ^ exponent rank

/-- The value of a sign and a rank. -/
def signed (negative : Bool) (rank : Nat) : Rat :=
  if negative then -magnitude rank else magnitude rank

/-- The double with the given sign whose magnitude is nearest to a rational number that is not
negative; beyond the greatest one it is infinite. -/
def ofMagnitude (negative : Bool) (q : Rat) : Double :=
  if q = 0 then .finite negative 0
  else
    let e := max (log2Floor q - 52) (-1074)
    -- A significand that rounds up to the next power of two carries into the exponent by itself.
    let rank := (e + 1074).toNat * octave + (roundEven (q / 2 ^ e)).toNat
    if h : rank < 0x7FF0000000000000 then .finite negative ⟨rank, h⟩ else .infinity negative

/-- The double nearest to a rational number. -/
def ofRat (q : Rat) : Double :=
  if q < 0 then ofMagnitude true (-q) else ofMagnitude false q

/-- The double nearest to an integer, unless the integer lies beyond all of them. -/
def ofInt? (n : Int) : Option Double :=
  match ofRat n with
  | .infinity _ => none
  | x => some x

/-- The sum.  A sum of zero is negative only if both terms are negative. -/
def add : Double → Double → Double
  | .nan, _ => .nan
  | _, .nan => .nan
  | .infinity a, .infinity b => if a = b then .infinity a else .nan
  | .infinity a, .finite _ _ => .infinity a
  | .finite _ _, .infinity b => .infinity b
  | .finite a m, .finite b n =>
    let q := signed a m + signed b n
    if q = 0 then .finite (a && b) 0 else ofRat q

/-- The product. -/
def mul : Double → Double → Double
  | .nan, _ => .nan
  | _, .nan => .nan
  | .infinity a, .infinity b => .infinity (a != b)
  | .infinity a, .finite b n => if n = 0 then .nan else .infinity (a != b)
  | .finite a m, .infinity b => if m = 0 then .nan else .infinity (a != b)
  | .finite a m, .finite b n => ofMagnitude (a != b) (magnitude m * magnitude n)

/-- The order of two rational numbers. -/
def compareRat (a b : Rat) : Ordering :=
  if a < b then .lt else if a = b then .eq else .gt

/-- How a double compares with a rational number, by their exact values. -/
def compare? (x : Double) (q : Rat) : Option Ordering :=
  match x with
  | .finite negative rank => some (compareRat (signed negative rank) q)
  | .infinity true => some .lt
  | .infinity false => some .gt
  | .nan => none

/-- Whether a double is zero, of either sign. -/
def isZero (x : Double) : Bool := x.compare? 0 == some .eq

/-- The nearest integer; of two equally near ones the even one. -/
def toInt (x : Double) : Except NumberError Int :=
  match x with
  | .finite negative rank => .ok (roundEven (signed negative rank))
  | .infinity _ => .error .infinityToInteger
  | .nan => .error .nanToInteger

@[simp] theorem compare?_nan (q : Rat) : compare? .nan q = none := rfl

/-- Rounding gives a finite or an infinite number. -/
theorem ofMagnitude_ne_nan (negative : Bool) (q : Rat) : ofMagnitude negative q ≠ .nan := by
  unfold ofMagnitude
  split
  · simp
  · dsimp only
    split <;> simp

end Double

end Colloquy
