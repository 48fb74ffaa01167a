import Colloquy.Text.Phrase
import Colloquy.Value

/-!
# Actions

A statement of a script starts with a keyword, in letters of any case:

* `setVar` with a name and a value;
* `addItem`, `removeItem` and `completeQuest` with a phrase;
* `modifyHealth` with an integer literal.

Any other text is an unknown action.  Names and phrases lose one layer of matching quotes.

* `dropKeyword?`, `afterBlanks?`, `phrase?`: the parts of a statement;
* `Action`, `Action.read`;
* `scriptLines`: the statements of a script, one on each line, without blank lines and comments.

Reading fails only for an integer literal with more digits than the limit.
-/

namespace Colloquy

open Text

/-- What a statement of a script does. -/
inductive Action
  | setVariable (name : String) (value : Value)
  | setItem (item : String) (held : Bool)
  | completeQuest (quest : String)
  | modifyHealth (delta : Int)
  | unknown (text : String)
  deriving DecidableEq

namespace Action

/-- Whether a character is a form of a small ASCII letter.  Beside the two cases of each letter, the
long s is a form of `s`, and the dotted capital and the dotless small letter are forms of `i`. -/
def isFormOf (letter c : Char) : Bool :=
  c.toLower == letter || (letter == 's' && c == 'ſ') || (letter == 'i' && (c == 'İ' || c == 'ı'))

/-- The text behind a keyword, given in small letters. -/
def dropKeyword? : List Char → List Char → Option (List Char)
  | [], s => some s
  | _ :: _, [] => none
  | letter :: letters, c :: s => if isFormOf letter c then dropKeyword? letters s else none

/-- The text behind one or more blanks. -/
def afterBlanks? : List Char → Option (List Char)
  | [] => none
  | c :: s => if isBlank c then some (s.dropWhile isBlank) else none

/-- The text behind a keyword and blanks. -/
def operand? (keyword : String) (s : List Char) : Option (List Char) :=
  (dropKeyword? keyword.toList s).bind afterBlanks?

/-- A text that is not empty and stays within one line. -/
def phrase? (s : List Char) : Option (List Char) :=
  if s.isEmpty || s.contains '\n' then none else some s

/-- Read a name and, behind blanks, a phrase. -/
def assignment? (s : List Char) : Option (List Char × List Char) := do
  let value ← afterBlanks? (s.dropWhile (!isBlank ·))
  let phrase ← phrase? value
  some (s.takeWhile (!isBlank ·), phrase)

/-- The value that a phrase denotes; a text loses one layer of quotes. -/
def valueOf (phrase : List Char) : Except NumberError Value := do
  match ← Value.read (String.ofList phrase) with
  | .text s => return .text (unwrapped s)
  | v => return v

/-- The name or phrase that a statement gives. -/
def nameOf (phrase : List Char) : String := String.ofList (unwrap phrase)

/-- Read a statement that has no blanks around it. -/
def readTrimmed (s : List Char) : Except NumberError Action :=
  match (operand? "setvar" s).bind assignment? with
  | some (name, phrase) => (valueOf phrase).map (.setVariable (nameOf name))
  | none =>
    match (operand? "additem" s).bind phrase? with
    | some item => .ok (.setItem (nameOf item) true)
    | none =>
      match (operand? "removeitem" s).bind phrase? with
      | some item => .ok (.setItem (nameOf item) false)
      | none =>
        match (operand? "completequest" s).bind phrase? with
        | some quest => .ok (.completeQuest (nameOf quest))
        | none =>
          match (operand? "modifyhealth" s).bind IntegerLiteral.read? with
          | some delta => delta.value.map .modifyHealth
          | none => .ok (.unknown (String.ofList s))

/-- Read a statement. -/
def read (text : String) : Except NumberError Action := readTrimmed (trim text.toList)

/-- Whether an action is unknown. -/
def isUnknown : Action → Bool
  | .unknown _ => true
  | _ => false

end Action

/-- Whether a line without blanks around it is a statement: neither empty nor a comment. -/
def isStatement : List Char → Bool
  | [] => false
  | c :: _ => c != '#'

/-- The statements of a script. -/
def scriptLines (script : String) : List String :=
  (((lines script.toList).map trim).filter isStatement).map String.ofList

end Colloquy
