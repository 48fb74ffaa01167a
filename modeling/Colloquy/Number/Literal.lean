import Colloquy.Text.Blank
import Colloquy.Text.Digit
import Colloquy.Number.Double

/-!
# Number literals

Plain literals, which scripts use: an optional sign and decimal digits of any script, for decimals
with a point that has a digit on at least one side.  Free literals, which documents and the command
line use: plain ones and more, with blanks around them and single underscores between digits, and
for real numbers also with an exponent, infinities and what is not a number.

* `IntegerLiteral`, `IntegerLiteral.read?`, `IntegerLiteral.exact`, `IntegerLiteral.value`;
* `DecimalLiteral`, `DecimalLiteral.read?`, `DecimalLiteral.value`;
* `readInteger`, `readReal`: free literals.

The value of an integer literal is exact, but one with more than `digitLimit` digits has none;
leading zeros count.  The value of a decimal literal is the nearest double and always exists.
-/

namespace Colloquy

open Text

/-- The number that decimal digits spell. -/
def ofDigits (digits : List Nat) : Nat := digits.foldl (fun n d => 10 * n + d) 0

/-- The values of decimal digits, if the text consists of such. -/
def digitValues? (s : List Char) : Option (List Nat) := s.mapM digitValue?

/-- The sign in front of a text and the text behind it. -/
def splitSign : List Char → Bool × List Char
  | '+' :: rest => (false, rest)
  | '-' :: rest => (true, rest)
  | rest => (false, rest)

/-- An optional sign and at least one decimal digit. -/
structure IntegerLiteral where
  negative : Bool
  digits : List Nat
  deriving DecidableEq

namespace IntegerLiteral

/-- Read a text that is an integer literal as a whole. -/
def read? (s : List Char) : Option IntegerLiteral :=
  match digitValues? (splitSign s).2 with
  | some (d :: ds) => some ⟨(splitSign s).1, d :: ds⟩
  | _ => none

/-- The integer that a literal spells, whatever its length. -/
def exact (l : IntegerLiteral) : Int :=
  if l.negative then -(ofDigits l.digits : Int) else ofDigits l.digits

/-- The integer that a literal denotes, unless it has too many digits. -/
def value (l : IntegerLiteral) : Except NumberError Int :=
  if digitLimit < l.digits.length then .error (.tooManyDigits l.digits.length) else .ok l.exact

end IntegerLiteral

/-- A sign, digits before and after a decimal point, and a decimal exponent. -/
structure DecimalLiteral where
  negative : Bool
  whole : List Nat
  fraction : List Nat
  exponent : Int := 0
  deriving DecidableEq

namespace DecimalLiteral

/-- Read digits, and after a point more digits; at least one digit stands on one of the sides. -/
def readUnsigned? (negative : Bool) (s : List Char) : Option DecimalLiteral :=
  match digitValues? (s.takeWhile isDecimal), s.dropWhile isDecimal with
  | some (d :: ds), [] => some { negative, whole := d :: ds, fraction := [] }
  | some whole, '.' :: rest =>
    match digitValues? rest with
    | some fraction =>
      if whole.isEmpty && fraction.isEmpty then none else some { negative, whole, fraction }
    | none => none
  | _, _ => none

/-- Read a text that is a plain decimal literal as a whole. -/
def read? (s : List Char) : Option DecimalLiteral :=
  readUnsigned? (splitSign s).1 (splitSign s).2

/-- The double nearest to a literal.  A number of digits and an exponent that together lie far
beyond the range of doubles give the infinite number or zero without computing the power of ten. -/
def value (l : DecimalLiteral) : Double :=
  let n := ofDigits (l.whole ++ l.fraction)
  let e := l.exponent - l.fraction.length
  let point := e + (Nat.toDigits 10 n).length
  if n = 0 ∨ point < -400 then .signedZero l.negative
  else if 400 < point then .infinity l.negative
  else .ofMagnitude l.negative (n * (10 : Rat) ^ e)

/-- The value of a literal is a number. -/
theorem value_ne_nan (l : DecimalLiteral) : l.value ≠ .nan := by
  unfold value
  dsimp only
  split
  · nofun
  · split
    · nofun
    · exact Double.ofMagnitude_ne_nan _ _

end DecimalLiteral

/-! ### Free literals -/

/-- The blanks that may stand around a free literal: all but the four information separators. -/
def isOuterBlank (c : Char) : Bool :=
  isBlank c && !(0x1C ≤ c.toNat && c.toNat ≤ 0x1F)

/-- The text without the blanks around a free literal. -/
def trimOuter (s : List Char) : List Char :=
  ((s.dropWhile isOuterBlank).reverse.dropWhile isOuterBlank).reverse

/-- Whether every underscore stands between two digits, given the character before the text. -/
def underscoresBetweenDigits (before : Char) : List Char → Bool
  | [] => before != '_'
  | c :: rest =>
    (if c == '_' then isDecimal before else before != '_' || isDecimal c) &&
      underscoresBetweenDigits c rest

/-- Read an integer with blanks around it and underscores between its digits.  The run of digits at
its start is counted against the limit before what follows it is looked at. -/
def readInteger (s : String) : Except NumberError Int :=
  let (negative, rest) := splitSign (trimOuter s.toList)
  let run := rest.takeWhile fun c => isDecimal c || c == '_'
  let digits := run.filterMap digitValue?
  -- The order of these tests decides which of two faults is reported.
  if digits.isEmpty || !underscoresBetweenDigits ' ' run then .error (.notInteger s)
  else if digitLimit < digits.length then .error (.tooManyDigits digits.length)
  else if run.length < rest.length then .error (.notInteger s)
  else IntegerLiteral.value ⟨negative, digits⟩

/-- Split a real literal at the letter of its exponent; without one the exponent is zero. -/
def splitExponent? (s : List Char) : Option (List Char × Int) :=
  let isLetter (c : Char) : Bool := c == 'e' || c == 'E'
  match s.dropWhile (!isLetter ·) with
  | [] => some (s, 0)
  | _ :: power =>
    (IntegerLiteral.read? power).map fun l => (s.takeWhile (!isLetter ·), l.exact)

/-- The ASCII letters of a text in lower case. -/
def lowerAscii (s : List Char) : String := String.ofList (s.map Char.toLower)

/-- Read a real number with blanks around it, underscores between its digits, an exponent, or the
name of an infinity or of what is not a number. -/
def readReal (s : String) : Except NumberError Double :=
  let body := trimOuter s.toList
  let (negative, rest) := splitSign body
  if lowerAscii rest = "inf" ∨ lowerAscii rest = "infinity" then .ok (.infinity negative)
  else if lowerAscii rest = "nan" then .ok .nan
  else if !underscoresBetweenDigits ' ' body then .error (.notReal s)
  else
    match splitExponent? (rest.filter (· != '_')) with
    | none => .error (.notReal s)
    | some (mantissa, exponent) =>
      match DecimalLiteral.readUnsigned? negative mantissa with
      | some l => .ok { l with exponent }.value
      | none => .error (.notReal s)

end Colloquy
