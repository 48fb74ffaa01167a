import Colloquy.Number.Literal
import Colloquy.Text.Lowercase

/-!
# Commands

What the player types.  A line of digits picks a response; any other line starts with a verb, in
letters of any case and with any number of slashes before it, and may go on with arguments.

* `Verb`, `Verb.ofWord?`: the verbs with their short forms;
* `CommandError`: what is wrong with a line;
* `Command`, `Command.read`.

Reading fails for a line of digits that spells no integer or one with more digits than the limit.
-/

namespace Colloquy

open Text

/-- What the player can ask for. -/
inductive Verb
  | continue
  | choose
  | start
  | restart
  | stop
  | history
  | progress
  | help
  | vars
  | set
  | goto
  deriving DecidableEq

namespace Verb

/-- The name of a verb. -/
def name : Verb → String
  | .continue => "continue"
  | .choose => "choose"
  | .start => "start"
  | .restart => "restart"
  | .stop => "stop"
  | .history => "history"
  | .progress => "progress"
  | .help => "help"
  | .vars => "vars"
  | .set => "set"
  | .goto => "goto"

/-- All verbs. -/
def all : List Verb :=
  [.continue, .choose, .start, .restart, .stop, .history, .progress, .help, .vars, .set, .goto]

/-- The verb with a name. -/
def ofName? (name : String) : Option Verb := all.find? (·.name == name)

/-- The full form of a short or other form of a verb. -/
def expand : String → String
  | "" | "c" | "next" => "continue"
  | "r" | "reset" => "restart"
  | "h" => "history"
  | "p" => "progress"
  | "?" => "help"
  | "variables" => "vars"
  | word => word

/-- The verb that a word asks for; responses are picked by number only. -/
def ofWord? (word : String) : Option Verb := (ofName? (expand word)).filter (· ≠ .choose)

/-- Whether a verb is for developers only. -/
def isForDevelopers : Verb → Bool
  | .vars | .set | .goto => true
  | _ => false

@[simp] theorem ofName?_name (verb : Verb) : ofName? verb.name = some verb := by
  cases verb <;> decide

end Verb

/-- What is wrong with a line. -/
inductive CommandError
  | choiceBelowOne
  | unknownVerb (word : String)
  | gotoUsage
  | setUsage
  deriving DecidableEq

/-- The wording of what is wrong with a line. -/
def CommandError.message : CommandError → String
  | .choiceBelowOne => "Choices are numbered from 1."
  | .unknownVerb word => "Unknown command '" ++ word ++ "'. Enter /help for a list of commands."
  | .gotoUsage => "Usage: /GOTO node_id"
  | .setUsage => "Usage: /SET name value"

/-- A line that has been read. -/
structure Command where
  raw : String
  verb : Option Verb := none
  /-- The index of the response that was picked, counted from zero. -/
  choiceIndex : Option Int := none
  arguments : List String := []
  error : Option CommandError := none
  deriving DecidableEq

namespace Command

/-- Whether a line picks a response. -/
def isNumber (s : List Char) : Bool := !s.isEmpty && s.all isDigitLike

/-- A line that picks a response. -/
def ofNumber (raw : String) (number : Int) : Command :=
  if number < 1 then { raw, error := some .choiceBelowOne }
  else { raw, verb := some .choose, choiceIndex := some (number - 1) }

/-- What is wrong with the arguments of a verb, if anything is. -/
def argumentError? (verb : Verb) (arguments : List String) : Option CommandError :=
  if verb = .goto ∧ arguments.length ≠ 1 then some .gotoUsage
  else if verb = .set ∧ arguments.length < 2 then some .setUsage
  else none

/-- A line of words. -/
def ofWords (raw : String) (words : List (List Char)) : Command :=
  let word := lower (words.headD [])
  match Verb.ofWord? (String.ofList (word.dropWhile (· == '/'))) with
  | none => { raw, error := some (.unknownVerb (String.ofList word)) }
  | some verb =>
    let arguments := words.tail.map String.ofList
    { raw, verb := some verb, arguments, error := argumentError? verb arguments }

/-- Read a line. -/
def read (line : String) : Except NumberError Command :=
  let body := trim line.toList
  let raw := String.ofList body
  if isNumber body then (readInteger raw).map (ofNumber raw)
  else .ok (ofWords raw (words body))

end Command

end Colloquy
