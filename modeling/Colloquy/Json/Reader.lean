import Colloquy.Json.Token

/-!
# Reading JSON

The reader takes one token at a time.  A stack holds the lists and objects that are still open, the
innermost first; a finished value goes into the innermost one.

* `Frame`: an open list or object;
* `State`, `State.step`: what may come next;
* `WordReader`: what words stand for;
* `firstFault?`: the word without a value that is found first;
* `Json.readWith`: a text that is one JSON value, or blank, which reads as null;
* `Json.read`: the same with the words of JSON.

Of two members of an object with one key, the first gives the place and the last the value.  A word
that is spelled well may have no value, as an integer with more digits than the limit; that is
looked for only in a text that is JSON otherwise.  All that stands in one list or object is looked
at before the lists and objects within it.
-/

namespace Colloquy

namespace Json

/-- A list or an object that is still open: the items so far, the last one first, or the members so
far and the key whose value comes next. -/
inductive Frame
  | list (items : List Json)
  | object (members : Members) (key : String)

/-- The values of words.  A word that is spelled well may have a fault in place of a value. -/
abbrev WordReader (ε : Type) := List Char → Option (Except ε Json)

/-- The value of a word, or null if it has a fault instead. -/
def valueOrNull {ε : Type} : Except ε Json → Json
  | .ok value => value
  | .error _ => .null

/-- What the reader expects next. -/
inductive State
  /-- A value; right after the opening of a list also its end. -/
  | value (stack : List Frame) (mayClose : Bool)
  /-- A key of an object; right after the opening also its end. -/
  | key (members : Members) (stack : List Frame) (mayClose : Bool)
  /-- The colon after a key. -/
  | colon (members : Members) (key : String) (stack : List Frame)
  /-- A comma or the end of the innermost list or object. -/
  | separator (frame : Frame) (stack : List Frame)
  /-- Nothing more. -/
  | done (value : Json)

/-- Put a finished value into the innermost open list or object. -/
def deliver (value : Json) : List Frame → State
  | [] => .done value
  | .list items :: stack => .separator (.list (value :: items)) stack
  | .object members key :: stack => .separator (.object (putMember key value members) key) stack

/-- Take one token. -/
def State.step {ε : Type} (readWord : WordReader ε) : State → Token → Option State
  | .value stack _, .text s => some (deliver (.text s) stack)
  | .value stack _, .word w => (readWord w).map fun r => deliver (valueOrNull r) stack
  | .value stack _, .openList => some (.value (.list [] :: stack) true)
  | .value stack _, .openObject => some (.key [] stack true)
  | .value (.list [] :: stack) true, .closeList => some (deliver (.list []) stack)
  | .key members stack _, .text k => some (.colon members k stack)
  | .key members stack true, .closeObject => some (deliver (.object members) stack)
  | .colon members k stack, .colon => some (.value (.object members k :: stack) false)
  | .separator (.list items) stack, .comma => some (.value (.list items :: stack) false)
  | .separator (.list items) stack, .closeList => some (deliver (.list items.reverse) stack)
  | .separator (.object members _) stack, .comma => some (.key members stack false)
  | .separator (.object members _) stack, .closeObject => some (deliver (.object members) stack)
  | _, _ => none

/-- The value that a list of tokens spells. -/
def ofTokens? {ε : Type} (readWord : WordReader ε) (tokens : List Token) : Option Json :=
  match tokens.foldlM (State.step readWord) (.value [] false) with
  | some (.done v) => some v
  | _ => none

/-- The faults of the words among tokens that stand in `depth` lists and objects, with the number of
lists and objects that each of them stands in. -/
def faults {ε : Type} (readWord : WordReader ε) (depth : Nat) : List Token → List (Nat × ε)
  | [] => []
  | .openList :: rest | .openObject :: rest => faults readWord (depth + 1) rest
  | .closeList :: rest | .closeObject :: rest => faults readWord (depth - 1) rest
  | .word w :: rest =>
    match readWord w with
    | some (.error e) => (depth, e) :: faults readWord depth rest
    | _ => faults readWord depth rest
  | _ :: rest => faults readWord depth rest

/-- The fault that is found first: of the least deep ones the first. -/
def firstFault? {ε : Type} (readWord : WordReader ε) (tokens : List Token) : Option ε :=
  let found := faults readWord 0 tokens
  (found.find? fun e => found.all (e.1 ≤ ·.1)).map (·.2)

/-- Why a text gives no JSON value; a word may have a fault. -/
inductive ReadError (ε : Type)
  | malformed
  | word (fault : ε)
  deriving DecidableEq

/-- Read a text that is one JSON value or blank. -/
def readWith {ε : Type} (readWord : WordReader ε) (s : List Char) : Except (ReadError ε) Json :=
  match tokens? s with
  | none => .error .malformed
  | some [] => .ok .null
  | some tokens =>
    match ofTokens? readWord tokens with
    | none => .error .malformed
    | some v =>
      match firstFault? readWord tokens with
      | some e => .error (.word e)
      | none => .ok v

/-- Read a text that is one JSON value with the words of JSON, or blank. -/
def read (s : String) : Except (ReadError NumberError) Json := readWith readWord? s.toList

end Json

end Colloquy
