import Colloquy.Command
import Colloquy.Session.Play
import Colloquy.Transcript

/-!
# Previews

A preview plays a tree one command at a time: go on, pick responses, start over, stop and look back.
Developers can also look at variables, set them and jump to any node.

* `Preview`, `Preview.begin`;
* `Preview.describe`: what the player sees of the current node;
* `Reply`, `CommandFault`: how a command ends;
* `Preview.handle`, `Preview.handleLine`: one command.

Of several characters with one id the first one is named.
-/

namespace Colloquy

/-- Whether a command did what it asks for. -/
inductive ReplyStatus
  | ok
  | noEffect
  | invalid
  deriving DecidableEq

/-- The name of a status. -/
def ReplyStatus.name : ReplyStatus → String
  | .ok => "ok"
  | .noEffect => "no_effect"
  | .invalid => "invalid"

/-- The answer to a command. -/
structure Reply where
  status : ReplyStatus
  message : String
  deriving DecidableEq

/-- Why a command has no answer. -/
inductive CommandFault
  | number (error : NumberError)
  /-- The command has fewer arguments than its verb needs. -/
  | noArgument
  /-- A negative index reaches beyond the first response. -/
  | noResponse
  /-- A negative index lies below the least index of a list. -/
  | indexTooLow
  deriving DecidableEq

/-- The wording of a fault. -/
def CommandFault.message : CommandFault → String
  | .number error => error.message
  | .noArgument => "tuple index out of range"
  | .noResponse => "list index out of range"
  | .indexTooLow => "cannot fit 'int' into an index-sized integer"

/-- A tree that is being played. -/
structure Preview where
  tree : Tree
  characters : List Character
  forDevelopers : Bool
  session : Session
  sources : Sources

namespace Preview

/-! ### Texts -/

/-- The commands of every player. -/
def helpText : String :=
  "Commands:\n"
    ++ "  (enter) or C     Continue to the next node\n"
    ++ "  1, 2, 3 ...      Pick a response\n"
    ++ "  /RESTART         Start again from the beginning\n"
    ++ "  /STOP            Stop the preview\n"
    ++ "  /START           Start a stopped preview\n"
    ++ "  /HISTORY         Show the last few steps of the conversation\n"
    ++ "  /PROGRESS        Show how much of the tree has been visited\n"
    ++ "  QUIT             Leave the preview"

/-- The commands of developers. -/
def developerHelpText : String :=
  "Developer commands:\n"
    ++ "  /VARS            Show session variables\n"
    ++ "  /SET name value  Set a variable\n"
    ++ "  /GOTO node_id    Jump to a node"

/-- The heading of a kind of nodes. -/
def kindHeading : NodeKind → String
  | .npc => "NPC"
  | .playerChoice => "PLAYER CHOICE"
  | .conditional => "CONDITIONAL"
  | .action => "ACTION"
  | .ending => "END"

/-- The verb of a developer's command as it is typed. -/
def verbHeading (verb : Verb) : String := verb.name.toUpper

/-- The name of the character who speaks at a node, if one is known. -/
def speaker? (characters : List Character) (node : Node) : Option String :=
  (nonempty? node.character).bind fun id => (characters.find? (·.id == id)).map Character.label

/-- The line of a response, with its number. -/
def responseLine (response : Response) : String :=
  s!"  {response.index + 1}. " ++ response.choice.text
    ++ (if response.isEnabled then "" else " (not connected)")

/-- The lines about what a node says. -/
def contentLines (node : Node) : List String :=
  match node.kind with
  | .npc | .action | .conditional => (nonempty? node.content).toList
  | _ => []

/-- The lines about what a node asks. -/
def choiceLines (tree : Tree) (node : Node) : List String :=
  if node.kind = .playerChoice then
    "Choose your response:" :: (tree.responses node).map responseLine
  else []

/-- The lines about how a session stands. -/
def statusLines (session : Session) : List String :=
  match session.status with
  | .ended =>
    [(nonempty? session.message).getD "This conversation has ended.",
      "Dialog complete. Enter /RESTART to start over."]
  | .stuck => ["WARNING: " ++ session.message.getD "None"]
  | _ => []

/-- The lines about a node and how the session stands there. -/
def nodeLines (preview : Preview) (node : Node) : List String :=
  ("[" ++ kindHeading node.kind ++ "] " ++ node.title)
    :: (((nonempty? (speaker? preview.characters node)).map (· ++ ":")).toList
      ++ contentLines node
      ++ choiceLines preview.tree node
      ++ statusLines preview.session)

/-- What the player sees. -/
def describe (preview : Preview) : String :=
  match preview.session.status with
  | .idle => "Preview stopped. Enter /START to begin."
  | .noNodes => (nonempty? preview.session.message).getD "This dialog tree has no nodes."
  | _ =>
    match preview.session.node? preview.tree with
    | none => (nonempty? preview.session.message).getD "The current node no longer exists."
    | some node => "\n".intercalate (preview.nodeLines node)

/-! ### Commands -/

/-- How a command ends: the preview after it and the answer, if there is one. -/
abbrev Outcome := Preview × Except CommandFault Reply

/-- A preview at the start of its tree. -/
def begin (tree : Tree) (characters : List Character) (forDevelopers : Bool) (sources : Sources) :
    Preview :=
  let (session, rest) := Session.start tree sources
  { tree, characters, forDevelopers, session, sources := rest }

/-- The preview after a turn of its session. -/
def afterTurn (preview : Preview) (turn : Turn) : Preview :=
  { preview with session := turn.session, sources := turn.sources }

/-- The answer that nothing is wrong. -/
def ok (preview : Preview) (message : String) : Outcome := (preview, .ok ⟨.ok, message⟩)

/-- The answer that nothing happened. -/
def noEffect (preview : Preview) (message : String) : Outcome := (preview, .ok ⟨.noEffect, message⟩)

/-- The answer that the command cannot be given. -/
def invalid (preview : Preview) (message : String) : Outcome := (preview, .ok ⟨.invalid, message⟩)

/-- The command has no answer. -/
def failed (preview : Preview) (fault : CommandFault) : Outcome := (preview, .error fault)

/-- What the player sees as the answer. -/
def shown (preview : Preview) : Outcome := preview.ok preview.describe

/-- Why the conversation cannot go on, if it is not under way. -/
def notPlaying? (preview : Preview) : Option String :=
  match preview.session.status with
  | .idle | .noNodes => some preview.describe
  | .ended => some "This conversation has ended. Enter /RESTART to play again."
  | .running | .stuck => none

/-- Whether the session is at a player choice node. -/
def isAtChoice (preview : Preview) : Bool :=
  match preview.session.node? preview.tree with
  | some node => node.kind = .playerChoice
  | none => false

/-- Go on to the next node. -/
def goOn (preview : Preview) : Outcome :=
  let turn := preview.session.advance preview.tree none preview.sources
  let after := preview.afterTurn turn
  match turn.fault with
  | some e => after.failed (.number e)
  | none =>
    if turn.session.history.length = preview.session.history.length then
      after.noEffect
        (match nonempty? turn.session.message with
        | some message => "WARNING: " ++ message
        | none => "Nothing happened.")
    else after.shown

/-- Continue, unless a response has to be picked. -/
def handleContinue (preview : Preview) : Outcome :=
  match preview.notPlaying? with
  | some message => preview.invalid message
  | none =>
    if preview.isAtChoice then preview.invalid "Choose a response by number." else preview.goOn

/-- The item at an index, which counts from the end if it is negative. -/
def atIndex? {α : Type} (items : List α) (index : Int) : Option α :=
  if 0 ≤ index then items[index.toNat]?
  else if -index ≤ items.length then items[(items.length + index).toNat]?
  else none

/-- The least index of a list: indices are words of 64 bits with a sign. -/
def leastIndex : Int := -0x8000000000000000

/-- Why no item is at a negative index that reaches beyond the first one. -/
def indexFault (index : Int) : CommandFault :=
  if index < leastIndex then .indexTooLow else .noResponse

/-- Pick a response. -/
def pick (preview : Preview) (index : Int) (response : Response) : Outcome :=
  if response.isEnabled then
    let turn := preview.session.advance preview.tree (some index) preview.sources
    let after := preview.afterTurn turn
    match turn.fault with
    | some e => after.failed (.number e)
    | none => after.shown
  else
    preview.noEffect ("'" ++ response.choice.text ++ "' is not connected to anything yet.")

/-- Pick the response with an index. -/
def handleChoose (preview : Preview) (index : Int) : Outcome :=
  match preview.notPlaying? with
  | some message => preview.invalid message
  | none =>
    let offered := preview.session.responses preview.tree
    if offered.isEmpty then
      preview.invalid "There is nothing to choose here. Press enter to continue."
    else if offered.length ≤ index then
      preview.invalid s!"Choose a number between 1 and {offered.length}."
    else
      match atIndex? offered index with
      | none => preview.failed (indexFault index)
      | some response => preview.pick index response

/-- The preview with a new session at the start of the tree. -/
def restarted (preview : Preview) : Preview :=
  let (session, rest) := Session.start preview.tree preview.sources
  { preview with session, sources := rest }

/-- Start a preview that is not under way. -/
def handleStart (preview : Preview) : Outcome :=
  if preview.session.isRunning then
    preview.invalid "The preview is already running. Use /RESTART to start over."
  else preview.restarted.shown

/-- Stop the preview. -/
def handleStop (preview : Preview) : Outcome :=
  { preview with session := .stop }.ok "Preview stopped."

/-- The number of steps that are looked back on. -/
def historyLength : Nat := 5

/-- The lines about one step. -/
def stepLines (line : TranscriptLine) : List String :=
  let spoken :=
    match nonempty? line.speaker with
    | some speaker => speaker ++ ": "
    | none => ""
  ("  " ++ spoken ++ line.title) :: ((nonempty? line.choiceText).map ("    Choice: " ++ ·)).toList

/-- Show the last steps. -/
def handleHistory (preview : Preview) : Outcome :=
  let lines := transcript preview.session preview.tree preview.characters
  if lines.isEmpty then preview.noEffect "No conversation history yet."
  else
    let last := lines.drop (lines.length - historyLength)
    preview.ok ("\n".intercalate ("Conversation history:" :: last.flatMap stepLines))

/-- Show how much of the tree has been visited. -/
def handleProgress (preview : Preview) : Outcome :=
  match ((preview.session.progress preview.tree).mul (.ofRat 100)).toInt with
  | .error e => preview.failed (.number e)
  | .ok percent =>
    preview.ok
      s!"Visited {preview.session.visited.size} of {preview.tree.nodes.size} nodes ({percent}%)."

/-- Show the commands. -/
def handleHelp (preview : Preview) : Outcome :=
  preview.ok
    (if preview.forDevelopers then helpText ++ "\n" ++ developerHelpText else helpText)

/-- The line of a variable. -/
def variableLine (entry : String × Value) : Except NumberError String :=
  entry.2.written.map fun text => "  " ++ entry.1 ++ " = " ++ text

/-- Show the variables. -/
def handleVars (preview : Preview) : Outcome :=
  if preview.session.store.isEmpty then preview.ok "No variables set."
  else
    match (Store.sorted preview.session.store).mapM variableLine with
    | .error e => preview.failed (.number e)
    | .ok lines => preview.ok ("Variables:\n" ++ "\n".intercalate lines)

/-- How a variable that may have no value is shown. -/
def shownValue : Option Value → Except NumberError String
  | some value => value.written
  | none => .ok "None"

/-- Set a variable and show what it holds. -/
def setVariable (preview : Preview) (name value : String) : Outcome :=
  let x := execute ("setVar " ++ name ++ " " ++ value) preview.session.store preview.sources
  let after : Preview :=
    { preview with
      session := { preview.session with store := x.store }
      sources := x.sources }
  match x.fault with
  | some e => after.failed (.number e)
  | none =>
    match shownValue (Store.get? x.store name) with
    | .error e => after.failed (.number e)
    | .ok text => after.ok (name ++ " = " ++ text)

/-- Set the variable named by the first argument to the other arguments. -/
def handleSet (preview : Preview) (arguments : List String) : Outcome :=
  match preview.notPlaying? with
  | some message => preview.invalid message
  | none =>
    match arguments with
    | [] => preview.failed .noArgument
    | name :: values => preview.setVariable name (" ".intercalate values)

/-- The preview after a jump to a node. -/
def jumped (preview : Preview) (id : String) : Bool × Preview :=
  let (moved, session, sources) := preview.session.goto preview.tree id preview.sources
  (moved, { preview with session, sources })

/-- Jump to a node; a preview that is not under way is started first. -/
def handleGoto (preview : Preview) (id : String) : Outcome :=
  if !preview.tree.has id then preview.invalid ("'" ++ id ++ "' is not a valid node ID")
  else
    match preview.jumped id with
    | (true, after) => after.shown
    | (false, _) =>
      let after := (preview.restarted.jumped id).2
      after.ok ("Preview restarted.\n" ++ after.describe)

/-- Carry out a verb. -/
def perform (preview : Preview) (command : Command) (verb : Verb) : Outcome :=
  match verb with
  | .continue => preview.handleContinue
  | .choose =>
    match command.choiceIndex with
    | some index => preview.handleChoose index
    | none => preview.invalid ("Unknown command '" ++ command.raw ++ "'.")
  | .start => preview.handleStart
  | .restart => preview.restarted.shown
  | .stop => preview.handleStop
  | .history => preview.handleHistory
  | .progress => preview.handleProgress
  | .help => preview.handleHelp
  | .vars => preview.handleVars
  | .set => preview.handleSet command.arguments
  | .goto =>
    match command.arguments with
    | [] => preview.failed .noArgument
    | id :: _ => preview.handleGoto id

/-- Carry out a command. -/
def handle (preview : Preview) (command : Command) : Outcome :=
  match command.verb with
  | none => preview.invalid ("Unknown command '" ++ command.raw ++ "'.")
  | some verb =>
    if verb.isForDevelopers && !preview.forDevelopers then
      preview.invalid
        ("/" ++ verbHeading verb ++ " is only available in developer mode (--dev).")
    else preview.perform command verb

/-- Carry out the command that a line spells. -/
def handleLine (preview : Preview) (line : String) : Outcome :=
  match Command.read line with
  | .error e => preview.failed (.number e)
  | .ok command =>
    match command.error with
    | some error => preview.invalid error.message
    | none => preview.handle command

/-- What the player sees first. -/
def intro (preview : Preview) : Reply := ⟨.ok, preview.describe⟩

end Preview

end Colloquy
