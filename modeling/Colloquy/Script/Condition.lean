import Colloquy.Number.Literal
import Colloquy.Text.Phrase

/-!
# Conditions

The language of conditions has three shapes:

* a variable's name;
* a variable's name, a run of the characters `<`, `>`, `=` and `!`, and an integer literal;
* a function's name and one quoted argument in parentheses.

Any other text is a condition too, but an unresolved one.  Blanks around a condition and between its
parts do not count; names are ASCII identifiers.

* `isIdentifier`, `comparison?`, `predicate?`: the shapes;
* `Condition`, `Condition.read`.

Reading fails only for a comparison whose operand has more digits than the limit.
-/

namespace Colloquy

open Text

/-- A condition of a conditional node. -/
inductive Condition
  | variable (name : String)
  | comparison (name relation : String) (operand : Int)
  | predicate (function argument : String)
  | unresolved (text : String)
  deriving DecidableEq

namespace Condition

/-- The characters that may start a name. -/
def isNameStart (c : Char) : Bool := c.isAlpha || c == '_'

/-- The characters of a name. -/
def isNameChar (c : Char) : Bool := c.isAlphanum || c == '_'

/-- Whether a text is a name. -/
def isIdentifier : List Char → Bool
  | [] => false
  | c :: rest => isNameStart c && rest.all isNameChar

/-- The characters of which a relation is made. -/
def isRelationChar (c : Char) : Bool := c == '<' || c == '>' || c == '=' || c == '!'

/-- Read a comparison: its name, its relation and its operand. -/
def comparison? (s : List Char) : Option (List Char × List Char × IntegerLiteral) :=
  let name := s.takeWhile isNameChar
  let fromRelation := (s.dropWhile isNameChar).dropWhile isBlank
  let relation := fromRelation.takeWhile isRelationChar
  let operand := (fromRelation.dropWhile isRelationChar).dropWhile isBlank
  if isIdentifier name && !relation.isEmpty then
    (IntegerLiteral.read? operand).map fun l => (name, relation, l)
  else none

/-- Read an argument up to its closing quote, behind which only blanks and a closing parenthesis
stand.  An argument stays within one line. -/
def argument? (quote : Char) (s : List Char) : Option (List Char) :=
  match s.reverse with
  | ')' :: back =>
    match back.dropWhile isBlank with
    | c :: argument => if c = quote ∧ '\n' ∉ argument then some argument.reverse else none
    | [] => none
  | _ => none

/-- Read a predicate: its function and its argument. -/
def predicate? (s : List Char) : Option (List Char × List Char) :=
  let name := s.takeWhile isNameChar
  match s.dropWhile isNameChar with
  | '(' :: inner =>
    match inner.dropWhile isBlank with
    | quote :: body =>
      if isIdentifier name && isQuote quote then
        (argument? quote body).map fun argument => (name, argument)
      else none
    | [] => none
  | _ => none

/-- Read a condition that has no blanks around it. -/
def readTrimmed (s : List Char) : Except NumberError Condition :=
  if isIdentifier s then .ok (.variable (String.ofList s))
  else
    match comparison? s with
    | some (name, relation, operand) =>
      operand.value.map (.comparison (String.ofList name) (String.ofList relation))
    | none =>
      match predicate? s with
      | some (function, argument) =>
        .ok (.predicate (String.ofList function) (String.ofList argument))
      | none => .ok (.unresolved (String.ofList s))

/-- Read a condition. -/
def read (text : String) : Except NumberError Condition := readTrimmed (trim text.toList)

/-- Whether one text stands somewhere in another. -/
def occursIn (part : List Char) : List Char → Bool
  | [] => part.isEmpty
  | c :: rest => part.isPrefixOf (c :: rest) || occursIn part rest

/-- Words that suggest that a condition is about the state of the game. -/
def gameStateHints : List String := ["playerHealth", "hasItem", "quest"]

/-- Whether a text holds a word about the state of the game. -/
def mentionsGameState (text : String) : Bool :=
  gameStateHints.any fun hint => occursIn hint.toList text.toList

/-- Whether a condition is unresolved. -/
def isUnresolved : Condition → Bool
  | .unresolved _ => true
  | _ => false

end Condition

end Colloquy
