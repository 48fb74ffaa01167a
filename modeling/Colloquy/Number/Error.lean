import Colloquy.Text.Quoted

/-!
# Failures of numbers

Why a number cannot be read, converted or written, and the wording of each cause.

* `digitLimit`: integers of more digits are neither read nor written;
* `NumberError`, `NumberError.message`.
-/

namespace Colloquy

/-- The greatest number of digits of an integer that is read from or written as text. -/
def digitLimit : Nat := 4300

/-- Why a number cannot be read, converted or written. -/
inductive NumberError
  /-- An integer literal has more digits than the limit. -/
  | tooManyDigits (count : Nat)
  /-- An integer has too many digits to be written. -/
  | tooLongToWrite
  /-- A text is no integer. -/
  | notInteger (text : String)
  /-- A text is no real number. -/
  | notReal (text : String)
  /-- An integer lies beyond the greatest double. -/
  | tooLargeForDouble
  /-- An infinite number has no nearest integer. -/
  | infinityToInteger
  /-- What is not a number has no nearest integer. -/
  | nanToInteger
  deriving DecidableEq

/-- The wording of a failure. -/
def NumberError.message : NumberError → String
  | .tooManyDigits count =>
    s!"Exceeds the limit ({digitLimit} digits) for integer string conversion: "
      ++ s!"value has {count} digits; use sys.set_int_max_str_digits() to increase the limit"
  | .tooLongToWrite =>
    s!"Exceeds the limit ({digitLimit} digits) for integer string conversion; "
      ++ "use sys.set_int_max_str_digits() to increase the limit"
  | .notInteger text =>
    "invalid literal for int() with base 10: " ++ Text.clip 200 (Text.quoted text)
  | .notReal text => "could not convert string to float: " ++ Text.quoted text
  | .tooLargeForDouble => "int too large to convert to float"
  | .infinityToInteger => "cannot convert float infinity to integer"
  | .nanToInteger => "cannot convert float NaN to integer"

end Colloquy
