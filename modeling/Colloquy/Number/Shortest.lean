import Colloquy.Number.Double

/-!
# Shortest decimals

A double is written with the fewest significant digits that read back as the same double; among the
decimals of that length it is the nearest one.  Seventeen digits always suffice.

* `decimalPoint`: how many digits of a positive number stand before its decimal point;
* `candidate?`: a decimal of a given length that reads back;
* `shortest`: the digits and the place of the point;
* `Double.text`: the written form, positional for decimal exponents from -4 to 15 and
  scientific for the others.
-/

namespace Colloquy

namespace Double

/-- The least integer `k` with `q < 10 ^ k`, for a positive `q`. -/
def decimalPoint (q : Rat) : Int :=
  let k : Int := (Nat.toDigits 10 q.num.natAbs).length - (Nat.toDigits 10 q.den).length
  if (10 : Rat) ^ k ≤ q then k + 1 else k

/-- The nearer of the two decimals of `length` digits around the positive number `q` that read back
as the double of the given rank. -/
def candidate? (rank : Fin 0x7FF0000000000000) (q : Rat) (length : Nat) : Option Nat :=
  let unit := (10 : Rat) ^ (decimalPoint q - length)
  let below := (q / unit).floor.toNat
  let readsBack (n : Nat) : Bool := ofMagnitude false (n * unit) = .finite false rank
  match readsBack below, readsBack (below + 1) with
  | true, true => some (roundEven (q / unit)).toNat
  | true, false => some below
  | false, true => some (below + 1)
  | false, false => none

/-- The significant digits of a finite magnitude and the number of digits before the point. -/
def shortest (rank : Fin 0x7FF0000000000000) : List Char × Int :=
  let q := magnitude rank
  let (n, length) :=
    match (List.range' 1 16).findSome? fun length =>
        (candidate? rank q length).map fun n => (n, length) with
    | some found => found
    | none => ((roundEven (q / (10 : Rat) ^ (decimalPoint q - 17))).toNat, 17)
  let digits := Nat.toDigits 10 n
  -- The grid point above may be a power of ten, which has one digit more than was asked for.
  let significant := (digits.reverse.dropWhile (· == '0')).reverse
  (significant, decimalPoint q + (digits.length - length : Int))

/-- Digits with a point after the first `point` of them, filled up with zeros on either side. -/
def positional (digits : List Char) (point : Int) : List Char :=
  if point ≤ 0 then '0' :: '.' :: (List.replicate (-point).toNat '0' ++ digits)
  else if digits.length ≤ point.toNat then
    digits ++ List.replicate (point.toNat - digits.length) '0' ++ ['.', '0']
  else digits.take point.toNat ++ '.' :: digits.drop point.toNat

/-- Digits with a point after the first one and a decimal exponent of at least two digits. -/
def scientific (digits : List Char) (point : Int) : List Char :=
  let e := point - 1
  let mantissa :=
    match digits with
    | [] => []
    | [d] => [d]
    | d :: rest => d :: '.' :: rest
  mantissa ++ ['e', if e < 0 then '-' else '+'] ++ (Nat.toDigits 10 e.natAbs).leftpad 2 '0'

/-- The written form of a finite magnitude. -/
def magnitudeText (rank : Fin 0x7FF0000000000000) : List Char :=
  if rank.val = 0 then ['0', '.', '0']
  else
    let (digits, point) := shortest rank
    if -4 < point ∧ point ≤ 16 then positional digits point else scientific digits point

/-- The written form of a double. -/
def text : Double → String
  | .finite negative rank =>
    String.ofList (if negative then '-' :: magnitudeText rank else magnitudeText rank)
  | .infinity negative => if negative then "-inf" else "inf"
  | .nan => "nan"

end Double

end Colloquy
