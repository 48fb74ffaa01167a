import Colloquy.CommandLine.Options
import Colloquy.Document.Standard
import Colloquy.Preview
import Colloquy.Tree.Issues

/-!
# The program

The program loads a file, gives advice about it and plays it, one line of input after the other.

* `usage`, `helpText`, `issueReport`, `banner`: what is printed;
* `Fault`: why the program breaks off;
* `State`: a program that is under way, has left or has broken off;
* `openFile`, `begin`: the program up to its first line of input;
* `answer`, `playLines`: the lines of the input;
* `run`: the program on a whole input, with all that it prints.
-/

namespace Colloquy

namespace CommandLine

/-! ### Texts -/

/-- How the program is called. -/
def usage : String :=
  "usage: dialogtree [-h] [--tree TREE] [--tree-name TREE_NAME] [--seed SEED]\n"
    ++ "                  [--validate] [--dev] [--verbose]\n"

/-- What the options mean. -/
def helpText : String :=
  usage
    ++ "\nDialog tree preview player\n\noptions:\n"
    ++ "  -h, --help            show this help message and exit\n"
    ++ "  --tree TREE           Path to a dialog tree file (YAML or JSON export)\n"
    ++ "  --tree-name TREE_NAME\n"
    ++ "                        Tree to play when the file is a whole project\n"
    ++ "  --seed SEED           Seed for simulated conditions, for reproducible\n"
    ++ "                        playthroughs\n"
    ++ "  --validate            Validate the tree and exit\n"
    ++ "  --dev                 Enable developer commands (/vars, /set, /goto)\n"
    ++ "  --verbose             Log engine decisions to stderr\n"

/-- What is printed about words that are wrong. -/
def errorText (error : OptionError) : String :=
  usage ++ "dialogtree: error: " ++ error.message ++ "\n"

/-- The version of the program. -/
def programVersion : String := "0.1.0"

/-- A text with a line feed behind it. -/
def line (text : String) : String := text ++ "\n"

/-- The advice about a file. -/
def issueReport (path : String) (issues : List String) : String :=
  line ("TREE VALIDATION FAILED\nFile: " ++ path ++ "\n"
    ++ "\n".intercalate (issues.map ("- " ++ ·)))

/-- The rule above and below the heading. -/
def rule : String := line (String.ofList (List.replicate 50 '*'))

/-- The heading before a tree is played. -/
def banner (options : Options) (tree : Tree) : String :=
  "\n" ++ rule
    ++ line tree.name
    ++ ((nonempty? tree.description).map line).getD ""
    ++ line ("dialogtree v" ++ programVersion ++ " preview")
    ++ (options.seed.map fun seed => line ("  Seed: " ++ seed.text toString)).getD ""
    ++ (if options.dev then line "Developer mode enabled." else "")
    ++ line "Enter /HELP for commands."
    ++ rule

/-- What asks for a line of input. -/
def prompt : String := "> "

/-! ### States -/

/-- Why the program breaks off. -/
inductive Fault
  /-- There is no path to a file. -/
  | noPath
  | load (breakdown : Breakdown)
  | number (error : NumberError)
  /-- There is no number to start chance with. -/
  | noSeed
  | command (fault : CommandFault)

/-- The wording of a fault. -/
def Fault.message : Fault → String
  | .noPath => "'list' object has no attribute 'read_text'"
  | .load breakdown => breakdown.message
  | .number error => error.message
  | .noSeed =>
    "The only supported seed types are: None,\nint, float, str, bytes, and bytearray."
  | .command fault => fault.message

/-- How the program stands. -/
inductive State
  | playing (preview : Preview)
  | left (exit : Nat) (sources : Sources)
  | broken (fault : Fault) (sources : Sources)

/-- The sources of a program. -/
def State.sources : State → Sources
  | .playing preview => preview.sources
  | .left _ sources => sources
  | .broken _ sources => sources

/-- What the program printed, and how it stands after that. -/
abbrev Step := String × State

/-- The advice about a file: that about loading and that about the tree. -/
def allIssues (file : TreeFile) : Except NumberError (List String) :=
  file.tree.issues.map fun issues => file.issues ++ issues.map Issue.message

/-- Give advice about a file and leave. -/
def validateFile (path : String) (file : TreeFile) (sources : Sources) : Step :=
  match allIssues file with
  | .error e => ("", .broken (.number e) sources)
  | .ok [] => (line ("'" ++ file.tree.name ++ "': no issues found."), .left 0 sources)
  | .ok issues => (issueReport path issues, .left 1 sources)

/-- Give advice about a file and start to play it. -/
def playFile (options : Options) (path : String) (file : TreeFile) (sources : Sources) : Step :=
  match allIssues file with
  | .error e => ("", .broken (.number e) sources)
  | .ok issues =>
    let report := if issues.isEmpty then "" else issueReport path issues
    if options.seed = some .empty then (report, .broken .noSeed sources)
    else
      let preview := Preview.begin file.tree file.characters options.dev sources
      (report ++ banner options file.tree ++ line preview.intro.message, .playing preview)

/-- Load the file at a path, and give advice about it or start to play it. -/
def openFile (options : Options) (path : String) (content : Document.Content)
    (sources : Sources) : Step :=
  let noted := sources.noteAll (Document.fileEvents path content options.treeName)
  match Document.loadFile path content options.treeName with
  | .error (.refused refusal) => (line refusal.message, .left 1 noted)
  | .error (.broken breakdown) => ("", .broken (.load breakdown) noted)
  | .ok file =>
    if options.validate then validateFile path file noted else playFile options path file noted

/-- The program up to its first line of input; `contentOf` gives what a path names. -/
def begin (options : Options) (contentOf : String → Document.Content) (sources : Sources) : Step :=
  match options.tree with
  | .value path => openFile options path (contentOf path) sources
  | .empty => ("", .broken .noPath sources)

/-- Whether a line asks to leave. -/
def isFarewell (input : String) : Bool :=
  let word := String.ofList (Text.lower (Text.trim input.toList))
  word == "quit" || word == "exit"

/-- Take one line of input. -/
def answer (preview : Preview) (input : String) : Step :=
  if isFarewell input then ("", .left 0 preview.sources)
  else
    match preview.handleLine input with
    | (after, .ok reply) => (line reply.message, .playing after)
    | (after, .error fault) => ("", .broken (.command fault) after.sources)

/-- Take the lines of the input until the program leaves or breaks off.  At the end of the input it
leaves. -/
def playLines (preview : Preview) : List String → Step
  | [] => (prompt, .left 0 preview.sources)
  | input :: rest =>
    match answer preview input with
    | (printed, .playing after) =>
      let (more, state) := playLines after rest
      (prompt ++ printed ++ more, state)
    | (printed, state) => (prompt ++ printed, state)

/-- The lines of an input.  A line feed ends a line; what stands behind the last one is a line too,
unless it is empty. -/
def inputLines (input : String) : List String :=
  let pieces := Text.lines input.toList
  (if pieces.getLast? = some [] then pieces.dropLast else pieces).map String.ofList

/-! ### Runs -/

/-- What a run of the program leaves: its exit code, all that it printed, and why it broke off if it
did. -/
structure Output where
  exit : Nat
  stdout : String := ""
  stderr : String := ""
  fault : Option Fault := none

/-- The journal as it is printed. -/
def journalText (sources : Sources) : String := String.join (sources.lines.map line)

/-- The output of a run that has ended with the given step.  A program under way leaves. -/
def outputOf (options : Options) (step : Step) : Output :=
  let stderr := if options.verbose then journalText step.2.sources else ""
  match step.2 with
  | .broken fault _ => { exit := 1, stdout := step.1, stderr, fault := some fault }
  | .left exit _ => { exit, stdout := step.1, stderr }
  | .playing _ => { exit := 0, stdout := step.1, stderr }

/-- Load and play a file on a whole input. -/
def runOptions (options : Options) (contentOf : String → Document.Content) (input : String)
    (sources : Sources) : Output :=
  match begin options contentOf sources with
  | (printed, .playing preview) =>
    let (more, state) := playLines preview (inputLines input)
    outputOf options (printed ++ more, state)
  | step => outputOf options step

/-- The output that explains the options. -/
def helpOutput : Output := { exit := 0, stdout := helpText }

/-- The output for words that are wrong. -/
def errorOutput (error : OptionError) : Output := { exit := 2, stderr := errorText error }

/-- Run the program on its words and a whole input; `contentOf` gives what a path names. -/
def run (words : List String) (contentOf : String → Document.Content) (input : String)
    (sources : Sources) : Output :=
  match parse words with
  | .run options => runOptions options contentOf input sources
  | .help => helpOutput
  | .fail error => errorOutput error

end CommandLine

end Colloquy
