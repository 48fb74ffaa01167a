import Colloquy.Script.Action
import Colloquy.Sources
import Colloquy.Store

/-!
# Execution of scripts

A statement changes one variable.  One that is unknown or fails is recorded instead, under a new
name that is made of a word and the time.

* `adjustHealth`: the health after a change, kept between its bounds;
* `suffixed`, `firstFree`, `recordKey`: the name of a record;
* `Action.apply`;
* `execute`: one statement, `executeScript`: all statements of a script, line by line.

Each record asks the clock for the time.  Execution fails only where a record is to be made and the
clock shows no finite time; what was done before that stays done.
-/

namespace Colloquy

/-! ### Health -/

/-- The variable that holds the health of the player. -/
def healthVariable : String := "playerHealth"

/-- The least health. -/
def leastHealth : Int := 0

/-- The greatest health, which the player has at first. -/
def greatestHealth : Int := 100

/-- A number kept between the bounds of health.  A number equal to a bound becomes the integer
bound, and what is not a number becomes the greatest health. -/
def clampHealth (h : Number) : Number :=
  let below := if h.compare? greatestHealth = some .lt then h else .integer greatestHealth
  if below.compare? leastHealth = some .gt then below else .integer leastHealth

/-- The health of the player. -/
def currentHealth (store : Store) : Number :=
  match Store.get? store healthVariable with
  | some v => v.number
  | none => .integer greatestHealth

/-- The health after a change. -/
def adjustHealth (store : Store) (delta : Int) : Except NumberError Number :=
  ((currentHealth store).add delta).map clampHealth

/-! ### Records -/

/-- The names to choose from: the base itself, then the base with the numbers from one on. -/
def suffixed (base : String) : Nat → String
  | 0 => base
  | k + 1 => base ++ "_" ++ toString (k + 1)

/-- The first name from number `k` on that is not taken, where one of the next `rounds` names or the
name behind them is known to be free. -/
def freeFrom (taken : String → Bool) (base : String) : Nat → Nat → String
  | 0, k => suffixed base k
  | rounds + 1, k =>
    if taken (suffixed base k) then freeFrom taken base rounds (k + 1) else suffixed base k

/-- The first name that no variable has.  As many names as there are variables can be taken, so the
name behind these is free. -/
def firstFree (store : Store) (base : String) : String :=
  freeFrom store.contains base store.size 0

/-- The name of a new record: a word and the time, with a number if that name is taken. -/
def recordKey (word : String) (clock : Clock) (store : Store) : Except NumberError String :=
  (milliseconds clock).map fun ms => firstFree store (word ++ "_" ++ toString ms)

/-- The store with a new record. -/
def record (word : String) (clock : Clock) (store : Store) (content : String) :
    Except NumberError Store :=
  (recordKey word clock store).map fun key => Store.set store key (.text content)

/-! ### Statements -/

/-- The store after an action. -/
def Action.apply (clock : Clock) (store : Store) : Action → Except NumberError Store
  | .setVariable name value => .ok (Store.set store name value)
  | .setItem item held => .ok (Store.set store (itemVariable item) (.flag held))
  | .completeQuest quest => .ok (Store.set store (questVariable quest) questCompleted)
  | .modifyHealth delta =>
    (adjustHealth store delta).map fun h => Store.set store healthVariable (.ofNumber h)
  | .unknown text => record "action" clock store text

/-- The sources that an action leaves: an unknown one is noted, and asks for the time. -/
def Action.leave (sources : Sources) : Action → Sources
  | .unknown text => (sources.note (.actionRecorded text)).tick
  | _ => sources

/-- How an execution ended: the store it left, the sources, and why it broke off if it did. -/
structure Execution where
  store : Store
  sources : Sources
  fault : Option NumberError := none

/-- Record that a statement failed. -/
def recordFailure (text : String) (error : NumberError) (store : Store) (sources : Sources) :
    Execution :=
  let left := (sources.note (.actionFailed text error)).tick
  match record "error" sources.clock store (Text.strip text ++ ": " ++ error.message) with
  | .ok recorded => { store := recorded, sources := left }
  | .error e => { store, sources := left, fault := some e }

/-- Execute one statement.  An unknown one that cannot be recorded has failed in its turn. -/
def execute (text : String) (store : Store) (sources : Sources) : Execution :=
  match Action.read text with
  | .error e => recordFailure text e store sources
  | .ok action =>
    match action.apply sources.clock store with
    | .ok changed => { store := changed, sources := action.leave sources }
    | .error e => recordFailure text e store (action.leave sources)

/-- Execute one statement more, unless the execution broke off. -/
def Execution.next (x : Execution) (text : String) : Execution :=
  match x.fault with
  | some _ => x
  | none => execute text x.store x.sources

/-- Execute statements one after the other. -/
def executeLines (statements : List String) (store : Store) (sources : Sources) : Execution :=
  statements.foldl Execution.next { store, sources }

/-- Execute the statements of a script. -/
def executeScript (script : String) (store : Store) (sources : Sources) : Execution :=
  executeLines (scriptLines script) store sources

@[simp] theorem executeLines_nil (store : Store) (sources : Sources) :
    executeLines [] store sources = { store, sources } := rfl

@[simp] theorem executeLines_singleton (text : String) (store : Store) (sources : Sources) :
    executeLines [text] store sources = execute text store sources := rfl

/-- Statements in two parts: the second part continues what the first one left. -/
theorem executeLines_append (a b : List String) (store : Store) (sources : Sources) :
    executeLines (a ++ b) store sources =
      b.foldl Execution.next (executeLines a store sources) := by
  simp [executeLines]

end Colloquy
