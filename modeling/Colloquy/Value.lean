import Colloquy.Number.Basic
import Colloquy.Number.Literal
import Colloquy.Text.Lowercase
import Colloquy.Text.Quoted

/-!
# Values of variables

A variable holds a text, an integer, a double or a flag, and may hold one kind now and another
later.

* `Value`;
* `Value.number`: the number that a value counts as, zero where it is none;
* `Value.truth`: whether a value counts as true;
* `Value.read`: the value that a text in a statement denotes;
* `Value.written`: a value as it is shown to the player.
-/

namespace Colloquy

/-- What a variable holds. -/
inductive Value
  | text (s : String)
  | integer (n : Int)
  | real (x : Double)
  | flag (b : Bool)
  deriving DecidableEq

namespace Value

/-- The value of a number. -/
def ofNumber : Number → Value
  | .integer n => .integer n
  | .real x => .real x

/-- The number that a text counts as: the double of a plain decimal literal, otherwise zero. -/
def textNumber (s : String) : Number :=
  match DecimalLiteral.read? (Text.trim s.toList) with
  | some l => .real l.value
  | none => .integer 0

/-- The number that a value counts as. -/
def number : Value → Number
  | .text s => textNumber s
  | .integer n => .integer n
  | .real x => .real x
  | .flag b => .integer (if b then 1 else 0)

/-- The words that count as false, whatever their case and the blanks around them. -/
def falseWords : List String := ["", "false", "0", "no", "off", "none", "null"]

/-- Whether a value counts as true. -/
def truth : Value → Bool
  | .text s => !falseWords.contains (String.ofList (Text.lower (Text.trim s.toList)))
  | .integer n => n != 0
  | .real x => !x.isZero
  | .flag b => b

/-- The value that a text denotes: an integer, a double or the text itself, blanks included. -/
def read (s : String) : Except NumberError Value :=
  let body := Text.trim s.toList
  match IntegerLiteral.read? body with
  | some l => l.value.map .integer
  | none =>
    match DecimalLiteral.read? body with
    | some l => .ok (.real l.value)
    | none => .ok (.text s)

/-- A value as it is shown to the player, unless it is an integer of too many digits. -/
def written : Value → Except NumberError String
  | .text s => .ok (Text.quoted s)
  | .integer n => integerText n
  | .real x => .ok x.text
  | .flag b => .ok (if b then "True" else "False")

/-- The number of a variable that may have no value. -/
def numberOf (v : Option Value) : Number := (v.map number).getD (.integer 0)

/-- The truth of a variable that may have no value. -/
def truthOf (v : Option Value) : Bool := (v.map truth).getD false

@[simp] theorem number_integer (n : Int) : number (.integer n) = .integer n := rfl
@[simp] theorem number_real (x : Double) : number (.real x) = .real x := rfl
@[simp] theorem number_flag (b : Bool) : number (.flag b) = .integer (if b then 1 else 0) := rfl
@[simp] theorem truth_flag (b : Bool) : truth (.flag b) = b := rfl
@[simp] theorem numberOf_none : numberOf none = .integer 0 := rfl
@[simp] theorem numberOf_some (v : Value) : numberOf (some v) = v.number := rfl
@[simp] theorem truthOf_none : truthOf none = false := rfl
@[simp] theorem truthOf_some (v : Value) : truthOf (some v) = v.truth := rfl

end Value

end Colloquy
