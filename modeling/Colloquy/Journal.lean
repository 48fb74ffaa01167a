import Colloquy.Number.Error

/-!
# The journal

What happens while a document is loaded and a conversation is played, for those who ask to follow
it.

* `Event`: what happened, with the texts concerned;
* `Event.line`: the line that reports it.
-/

namespace Colloquy

/-- What happened. -/
inductive Event
  /-- A node came with an id that an earlier node has. -/
  | nodeRepeated (id : String)
  /-- A condition could not be read. -/
  | conditionFailed (text : String) (error : NumberError)
  /-- A condition outside the grammar, about the state of the game, was decided by chance. -/
  | gameStateSimulated (text : String) (result : Bool)
  /-- Another condition outside the grammar was decided by chance. -/
  | conditionSimulated (text : String) (result : Bool)
  /-- An action could not be read or carried out. -/
  | actionFailed (text : String) (error : NumberError)
  /-- An action outside the grammar was recorded. -/
  | actionRecorded (text : String)
  /-- A session cannot go on from where it is. -/
  | stuck (message : String)
  /-- No option has the index that was selected. -/
  | selectionRefused (selection : Option Int) (node : String) (count : Nat)
  /-- The option that was selected leads nowhere. -/
  | choiceRefused (text node : String)
  deriving DecidableEq

namespace Event

/-- A truth value in a line. -/
def truthWord (b : Bool) : String := if b then "True" else "False"

/-- A selection in a line. -/
def selectionWord : Option Int → String
  | some n => toString n
  | none => "None"

/-- The line that reports an event: its weight, the part of the program and what happened. -/
def line : Event → String
  | .nodeRepeated id =>
    "WARNING dialogtree.loader: Duplicate node id '" ++ id ++ "'; keeping the last definition"
  | .conditionFailed text error =>
    "WARNING dialogtree.expressions: Condition '" ++ text ++ "' failed to evaluate: "
      ++ error.message
  | .gameStateSimulated text result =>
    "DEBUG dialogtree.expressions: Simulating game state condition '" ++ text ++ "' as "
      ++ truthWord result
  | .conditionSimulated text result =>
    "DEBUG dialogtree.expressions: Unrecognised condition '" ++ text ++ "' simulated as "
      ++ truthWord result
  | .actionFailed text error =>
    "DEBUG dialogtree.expressions: Action '" ++ text ++ "' failed: " ++ error.message
  | .actionRecorded text =>
    "DEBUG dialogtree.expressions: Unrecognised action '" ++ text ++ "' recorded"
  | .stuck message => "DEBUG dialogtree.engine: Session stuck: " ++ message
  | .selectionRefused selection node count =>
    "DEBUG dialogtree.engine: Refused selection " ++ selectionWord selection ++ " at '" ++ node
      ++ s!"' ({count} choices)"
  | .choiceRefused text node =>
    "DEBUG dialogtree.engine: Refused choice '" ++ text ++ "' at '" ++ node ++ "': no connection"

end Event

end Colloquy
