import Colloquy.Json.Token

/-!
# Printing JSON

A JSON value in one line, without blanks between the tokens.

* `printText`: a text between double quotes;
* `printReal`: a double;
* `Json.print`.
-/

namespace Colloquy

namespace Json

/-- How a character stands in a JSON text. -/
def escapeChar (c : Char) : List Char :=
  if c = Text.doubleQuote ∨ c = Text.backslash then [Text.backslash, c]
  else if c = '\n' then [Text.backslash, 'n']
  else if c.toNat < 0x20 ∨ c.toNat = 0x7F ∨ isLineEnd c then
    Text.backslash :: 'u' :: Text.hexadecimal 4 c.toNat
  else [c]

/-- A text between double quotes. -/
def printText (s : String) : String :=
  String.ofList (Text.doubleQuote :: s.toList.flatMap escapeChar ++ [Text.doubleQuote])

/-- A double as a JSON number.  An infinite one is written as a number beyond the greatest double,
and what is not a number has no place in JSON. -/
def printReal : Double → String
  | .infinity negative => if negative then "-1e999" else "1e999"
  | .nan => "null"
  | x => x.text

mutual

/-- A JSON value in one line. -/
def print : Json → String
  | .null => "null"
  | .flag b => if b then "true" else "false"
  | .integer n => toString n
  | .real x => printReal x
  | .text s => printText s
  | .list items => "[" ++ ",".intercalate (printItems items) ++ "]"
  | .object members => "\x7b" ++ ",".intercalate (printMembers members) ++ "\x7d"

/-- The items of a list, one by one. -/
def printItems : List Json → List String
  | [] => []
  | item :: rest => print item :: printItems rest

/-- The members of an object, one by one. -/
def printMembers : List (String × Json) → List String
  | [] => []
  | (key, value) :: rest => (printText key ++ ":" ++ print value) :: printMembers rest

end

end Json

end Colloquy
