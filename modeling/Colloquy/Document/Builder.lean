import Colloquy.Document.Error
import Colloquy.Number.Literal
import Colloquy.Tree.Basic

/-!
# Readers and builders

Loading leaves two tasks to others: to read the value that a text spells, and to build the records
of a tree or a character from the members of an object.  Here is what it takes from them and what
they may fail with; what else they do is up to them.

* `TextError`, `TextReader`: the value of a text;
* `BuildError`, `Builder`: the records of members;
* `castReal`, `castKind`: values that become real numbers and kinds of nodes.
-/

namespace Colloquy

/-- Why a text has no value. -/
inductive TextError
  | malformed
  | broken (breakdown : Breakdown)

/-- What reads the value of a text. -/
structure TextReader where
  read : String → Except TextError Json

/-- Why a record is not built. -/
inductive BuildError
  /-- A field is missing or of another type than it should be.  The wording shows the value, unless
  that cannot be written. -/
  | unfit (wording : Except NumberError String)
  /-- A value cannot become one of the type that it should have. -/
  | invalid (wording : String)
  | broken (breakdown : Breakdown)

/-- What builds records of the members of objects.  The nodes of a tree are the values of an object
whose keys are their ids. -/
structure Builder where
  tree : Json.Members → Except BuildError Tree
  character : Json.Members → Except BuildError Character

/-- The real number of a value: of a number, of a flag, which counts as one or zero, or of a text
that spells one. -/
def castReal : Json → Except BuildError Double
  | .real x => .ok x
  | .flag b => .ok (.ofRat (if b then 1 else 0))
  | .integer n =>
    match Double.ofInt? n with
    | some x => .ok x
    | none => .error (.broken (.number .tooLargeForDouble))
  | .text s => (readReal s).mapError fun e => .invalid e.message
  | value => .error (.broken (.notConvertible value.kindName))

/-- The kind of node that a value names. -/
def kindOf? : Json → Option NodeKind
  | .text name => NodeKind.ofName? name
  | _ => none

/-- The kind of node that a value names, if it names one.  Where the value cannot be written, the
wording is that of why it cannot. -/
def castKind (value : Json) : Except BuildError NodeKind :=
  match kindOf? value, value.written with
  | some kind, _ => .ok kind
  | none, .ok shown => .error (.invalid (shown ++ " is not a valid NodeKind"))
  | none, .error e => .error (.invalid e.message)

end Colloquy
