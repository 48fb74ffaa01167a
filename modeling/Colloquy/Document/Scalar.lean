import Colloquy.Document.Timestamp
import Colloquy.Json.Token

/-!
# Bare texts

What a text without quotes stands for in a document: null, a flag, a number, a timestamp, or itself.
Two texts stand for nothing.  A number or a timestamp can be spelled well and still have no value.

* `ScalarError`: why a bare text has no value;
* `readInteger?`, `readReal?`: the spellings of numbers, wider than those of JSON;
* `readScalar?`: the value of a bare text.

An integer is binary behind `0b`, hexadecimal behind `0x`, octal behind any other zero, and of base
sixty where colons divide it; underscores between its digits count for nothing.  A real number has a
point, and a sign in its exponent if it has one.
-/

namespace Colloquy

namespace Document

/-- Why a bare text has no value. -/
inductive ScalarError
  | number (error : NumberError)
  /-- A number in a base has underscores, but no digit. -/
  | noDigits (base : Nat)
  | date (error : DateError)
  deriving DecidableEq

/-- The wording of why a bare text has no value. -/
def ScalarError.message : ScalarError → String
  | .number error => error.message
  | .noDigits base => s!"invalid literal for int() with base {base}: ''"
  | .date error => error.message

/-! ### Integers -/

/-- Whether a character is a digit below a bound, or an underscore. -/
def isDigitBelow (bound : Nat) (c : Char) : Bool :=
  c == '_' || (Json.hexValue? c).any (· < bound)

/-- The values of the digits in a run of digits and underscores. -/
def runDigits (run : List Char) : List Nat := (run.filter (· != '_')).filterMap Json.hexValue?

/-- The number that digits spell in a base. -/
def ofDigitsIn (base : Nat) (digits : List Nat) : Nat :=
  digits.foldl (fun n d => base * n + d) 0

/-- The number of a run of digits in a base. -/
def runValue (base : Nat) (run : List Char) : Except ScalarError Nat :=
  match runDigits run with
  | [] => .error (.noDigits base)
  | digits => .ok (ofDigitsIn base digits)

/-- The number of a run of decimal digits, which has to keep the limit. -/
def decimalRunValue (run : List Char) : Except ScalarError Nat :=
  let digits := runDigits run
  if digitLimit < digits.length then .error (.number (.tooManyDigits digits.length))
  else .ok (ofDigits digits)

/-- Read what stands behind a colon in a number of base sixty. -/
def readSixtieth? : List Char → Option Nat
  | [c] => if c.isDigit then Json.hexValue? c else none
  | [c, d] =>
    if '0' ≤ c ∧ c ≤ '5' ∧ d.isDigit then some (ofDigits (runDigits [c, d])) else none
  | _ => none

/-- Read a decimal number that does not start with zero, perhaps of base sixty. -/
def readDecimal? (s : List Char) : Option (Except ScalarError Nat) :=
  match s.splitOn ':' with
  | [] => none
  | first :: rest =>
    if (first.head?.any fun c => '1' ≤ c ∧ c ≤ '9') && first.all (isDigitBelow 10) then
      (rest.mapM readSixtieth?).map fun sixtieths =>
        (decimalRunValue first).map fun whole => sixtieths.foldl (fun n d => 60 * n + d) whole
    else none

/-- Read an integer without a sign. -/
def readMagnitude? : List Char → Option (Except ScalarError Nat)
  | ['0'] => some (.ok 0)
  | '0' :: 'b' :: c :: run =>
    if (c :: run).all (isDigitBelow 2) then some (runValue 2 (c :: run)) else none
  | '0' :: 'x' :: c :: run =>
    if (c :: run).all (isDigitBelow 16) then some (runValue 16 (c :: run)) else none
  | '0' :: run => if run.all (isDigitBelow 8) then some (runValue 8 ('0' :: run)) else none
  | s => readDecimal? s

/-- Read an integer. -/
def readInteger? (s : List Char) : Option (Except ScalarError Int) :=
  let (negative, rest) := splitSign s
  (readMagnitude? rest).map fun r => r.map fun n => if negative then -(n : Int) else n

/-! ### Real numbers -/

/-- The exponent in the text from its letter on; without a letter it is zero. -/
def readExponent? : List Char → Option Int
  | [] => some 0
  | _ :: sign :: digits =>
    if sign = '+' ∨ sign = '-' then (IntegerLiteral.read? (sign :: digits)).map (·.exact) else none
  | _ => none

/-- Read digits with a point among them and perhaps an exponent. -/
def readPointed? (negative : Bool) (s : List Char) : Option Double := do
  let isLetter (c : Char) : Bool := c == 'e' || c == 'E'
  let mantissa := s.takeWhile (!isLetter ·)
  let exponent ← readExponent? (s.dropWhile (!isLetter ·))
  let l ← DecimalLiteral.readUnsigned? negative (mantissa.filter (· != '_'))
  if mantissa.contains '.' then some { l with exponent }.value else none

/-- The names of an infinite number. -/
def infinityNames : List (List Char) := [".inf", ".Inf", ".INF"].map String.toList

/-- The names of what is not a number. -/
def nanNames : List (List Char) := [".nan", ".NaN", ".NAN"].map String.toList

/-- Read a real number.  It starts with a digit, or without a sign with a point and a digit. -/
def readReal? (s : List Char) : Option Double :=
  let (negative, rest) := splitSign s
  if nanNames.contains s then some .nan
  else if infinityNames.contains rest then some (.infinity negative)
  else if s.any (127 < ·.toNat) then none
  else
    match rest with
    | '.' :: c :: _ => if c.isDigit && rest == s then readPointed? false s else none
    | c :: _ => if c.isDigit then readPointed? negative rest else none
    | [] => none

/-! ### Values -/

/-- The names of null. -/
def nullNames : List String := ["~", "null", "Null", "NULL"]

/-- The names of the two flags. -/
def flagNames : List (String × Bool) :=
  ["yes", "Yes", "YES", "true", "True", "TRUE", "on", "On", "ON"].map (·, true)
    ++ ["no", "No", "NO", "false", "False", "FALSE", "off", "Off", "OFF"].map (·, false)

/-- The texts that stand for nothing: a dash opens an item, and two more are kept for a purpose that
no value has. -/
def reservedTexts : List String := ["-", "=", "<<"]

/-- The value of a bare text, if it stands for anything.  A timestamp of the calendar stands for
itself. -/
def readScalar? (s : List Char) : Option (Except ScalarError Json) :=
  let text := String.ofList s
  if reservedTexts.contains text then none
  else if nullNames.contains text then some (.ok .null)
  else
    match flagNames.lookup text, readInteger? s, readReal? s with
    | some b, _, _ => some (.ok (.flag b))
    | _, some n, _ => some (n.map .integer)
    | _, _, some x => some (.ok (.real x))
    | _, _, _ =>
      match (Timestamp.read? s).bind Timestamp.error? with
      | some e => some (.error (.date e))
      | none => some (.ok (.text text))

end Document

end Colloquy
