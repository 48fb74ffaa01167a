import Colloquy.Json.Basic
import Colloquy.Number.Literal

/-!
# JSON tokens

Between tokens stand spaces and line ends; a tab there is refused, since documents are also read as
block structured text, where a tab cannot separate tokens.

* `isLineEnd`, `isGap`: what may stand between tokens;
* `Token`: a mark, a text or a word;
* `readWord?`: the words of JSON, which are the numbers and the three names;
* `Mode`, `scan`: one pass over the characters, which keeps what has been read of the current token.
-/

namespace Colloquy

namespace Json

/-- The characters that end a line. -/
def lineEnds : Text.CharClass := [(0xA, 0xA), (0xD, 0xD), (0x85, 0x85), (0x2028, 0x2029)]

/-- Whether a character ends a line. -/
def isLineEnd (c : Char) : Bool := lineEnds.contains c

/-- Whether a character may stand between tokens. -/
def isGap (c : Char) : Bool := c == ' ' || isLineEnd c

/-- A mark of the JSON grammar, a text or a word as it is spelled. -/
inductive Token
  | openList
  | closeList
  | openObject
  | closeObject
  | comma
  | colon
  | text (s : String)
  | word (spelling : List Char)

/-- The characters of words. -/
def isWordChar (c : Char) : Bool :=
  c.isAlphanum || c == '+' || c == '-' || c == '.' || c == '_'

/-- Read the part of a number behind its integer digits. -/
def readFraction? (negative : Bool) (number : List Char) : Option Double := do
  let (mantissa, exponent) ← splitExponent? number
  let l ← DecimalLiteral.readUnsigned? negative mantissa
  if mantissa.contains '.' && l.fraction.isEmpty then none
  else some { l with exponent }.value

/-- Read a number.  A point or an exponent makes it real; its integer digits do not start with a
needless zero. -/
def readNumber? (word : List Char) : Option (Except NumberError Json) :=
  let negative := word.head? == some '-'
  let number := if negative then word.tail else word
  let whole := number.takeWhile Char.isDigit
  if whole.isEmpty || (whole.head? == some '0' && whole.length != 1) then none
  else if whole.length = number.length then
    (IntegerLiteral.read? word).map fun l => l.value.map .integer
  else (readFraction? negative number).map (.ok <| .real ·)

/-- Read a number or a name. -/
def readWord? (word : List Char) : Option (Except NumberError Json) :=
  match String.ofList word with
  | "null" => some (.ok .null)
  | "true" => some (.ok (.flag true))
  | "false" => some (.ok (.flag false))
  | _ => readNumber? word

/-- The value of a hexadecimal digit. -/
def hexValue? (c : Char) : Option Nat :=
  if c.isDigit then some (c.toNat - '0'.toNat)
  else if 'a' ≤ c ∧ c ≤ 'f' then some (c.toNat - 'a'.toNat + 10)
  else if 'A' ≤ c ∧ c ≤ 'F' then some (c.toNat - 'A'.toNat + 10)
  else none

/-- The character that a letter after a backslash stands for. -/
def escaped? (c : Char) : Option Char :=
  if c = Text.doubleQuote ∨ c = Text.backslash ∨ c = '/' then some c
  else if c = 'b' then some (Char.ofNat 8)
  else if c = 'f' then some (Char.ofNat 12)
  else if c = 'n' then some '\n'
  else if c = 'r' then some '\r'
  else if c = 't' then some '\t'
  else none

/-- What has been read of the current token; characters stand in reverse. -/
inductive Mode
  /-- Between two tokens. -/
  | between
  /-- In a word. -/
  | word (read : List Char)
  /-- In a text; `high` is the first half of a surrogate pair that was read last. -/
  | text (read : List Char) (high : Option Nat)
  /-- After a backslash in a text. -/
  | escape (read : List Char) (high : Option Nat)
  /-- In the hexadecimal digits of an escape, of which `owed` are still to come. -/
  | code (read : List Char) (high : Option Nat) (owed value : Nat)

/-- The characters of a text with a first half of a surrogate pair that found no second one. -/
def settle (read : List Char) (high : Option Nat) : List Char :=
  if high.isSome then Char.ofNat 0xFFFD :: read else read

/-- The mode after an escape with the given code, which may be half of a surrogate pair. -/
def afterCode (read : List Char) (high : Option Nat) (value : Nat) : Mode :=
  match high with
  | some h =>
    if 0xDC00 ≤ value ∧ value ≤ 0xDFFF then
      .text (Char.ofNat (0x10000 + (h - 0xD800) * 0x400 + (value - 0xDC00)) :: read) none
    else if 0xD800 ≤ value ∧ value ≤ 0xDBFF then .text (settle read high) (some value)
    else .text (Char.ofNat value :: settle read high) none
  | none =>
    if 0xD800 ≤ value ∧ value ≤ 0xDBFF then .text read (some value)
    else if 0xDC00 ≤ value ∧ value ≤ 0xDFFF then .text (Char.ofNat 0xFFFD :: read) none
    else .text (Char.ofNat value :: read) none

/-- The mark that a character is. -/
def mark? (c : Char) : Option Token :=
  if c = '[' then some .openList
  else if c = ']' then some .closeList
  else if c = '\x7b' then some .openObject
  else if c = '\x7d' then some .closeObject
  else if c = ',' then some .comma
  else if c = ':' then some .colon
  else none

/-- The tokens of a text; `tokens` holds those already read, the last one first. -/
def scan (tokens : List Token) : Mode → List Char → Option (List Token)
  | .between, [] => some tokens.reverse
  | .word read, [] => some (.word read.reverse :: tokens).reverse
  | _, [] => none
  | .between, c :: rest =>
    if isGap c then scan tokens .between rest
    else if c = Text.doubleQuote then scan tokens (.text [] none) rest
    else if isWordChar c then scan tokens (.word [c]) rest
    else
      match mark? c with
      | some t => scan (t :: tokens) .between rest
      | none => none
  | .word read, c :: rest =>
    if isWordChar c then scan tokens (.word (c :: read)) rest
    else
      let tokens := .word read.reverse :: tokens
      if isGap c then scan tokens .between rest
      else
        match mark? c with
        | some t => scan (t :: tokens) .between rest
        | none => none
  | .text read high, c :: rest =>
    if c = Text.doubleQuote then
      scan (.text (String.ofList (settle read high).reverse) :: tokens) .between rest
    else if c = Text.backslash then scan tokens (.escape read high) rest
    else if c.toNat < 0x20 then none
    else scan tokens (.text (c :: settle read high) none) rest
  | .escape read high, c :: rest =>
    if c = 'u' then scan tokens (.code read high 4 0) rest
    else
      match escaped? c with
      | some e => scan tokens (.text (e :: settle read high) none) rest
      | none => none
  | .code read high owed value, c :: rest =>
    match hexValue? c with
    | none => none
    | some d =>
      let value := value * 16 + d
      if owed = 1 then scan tokens (afterCode read high value) rest
      else scan tokens (.code read high (owed - 1) value) rest

/-- The tokens of a text, if it has no others than tokens. -/
def tokens? (s : List Char) : Option (List Token) := scan [] .between s

end Json

end Colloquy
