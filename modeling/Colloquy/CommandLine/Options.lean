import Colloquy.CommandLine.Path
import Colloquy.Number.Literal
import Colloquy.Setting
import Colloquy.Text.Blank

/-!
# Options

The options of the program.  An option may be cut short as long as only one option starts with what
is left, and takes its value from the next word or from behind an equals sign.

* `Options`: what the options say;
* `Flag`: the options by name;
* `Word`, `classify`: what a word on the command line is;
* `OptionError`: what is wrong with the words;
* `Request`, `parse`: what the words ask for.

First every word is classified; then the words are taken in order, up to the first that is wrong.
-/

namespace Colloquy

namespace CommandLine

/-- What the options say. -/
structure Options where
  tree : Setting String := .value "assets/trees/example.yaml"
  treeName : Option (Setting String) := none
  seed : Option (Setting Int) := none
  validate : Bool := false
  dev : Bool := false
  verbose : Bool := false
  deriving DecidableEq

/-- The options. -/
inductive Flag
  | help
  | tree
  | treeName
  | seed
  | validate
  | dev
  | verbose
  deriving DecidableEq

namespace Flag

/-- The long name of an option. -/
def name : Flag → String
  | .help => "--help"
  | .tree => "--tree"
  | .treeName => "--tree-name"
  | .seed => "--seed"
  | .validate => "--validate"
  | .dev => "--dev"
  | .verbose => "--verbose"

/-- All options. -/
def all : List Flag := [.help, .tree, .treeName, .seed, .validate, .dev, .verbose]

/-- The name of an option in a message. -/
def label : Flag → String
  | .help => "-h/--help"
  | flag => flag.name

/-- Whether an option has a value. -/
def hasValue : Flag → Bool
  | .tree | .treeName | .seed => true
  | _ => false

/-- The option with a long name. -/
def ofName? (name : List Char) : Option Flag := all.find? (·.name.toList == name)

/-- The options whose long names start with a text. -/
def startingWith (start : List Char) : List Flag :=
  all.filter fun flag => start.isPrefixOf flag.name.toList

end Flag

/-- What is wrong with the words. -/
inductive OptionError
  | ambiguous (word : String) (flags : List Flag)
  | noValue (flag : Flag)
  | needlessValue (flag : Flag) (value : String)
  | invalidSeed (value : String)
  | unrecognized (words : List String)
  deriving DecidableEq

/-- The wording of what is wrong with the words. -/
def OptionError.message : OptionError → String
  | .ambiguous word flags =>
    "ambiguous option: " ++ word ++ " could match " ++ ", ".intercalate (flags.map Flag.name)
  | .noValue flag => "argument " ++ flag.label ++ ": expected one argument"
  | .needlessValue flag value =>
    "argument " ++ flag.label ++ ": ignored explicit argument " ++ Text.quoted value
  | .invalidSeed value => "argument --seed: invalid int value: " ++ Text.quoted value
  | .unrecognized words => "unrecognized arguments: " ++ " ".intercalate words

/-- What a word on the command line is. -/
inductive Word
  /-- No option. -/
  | operand
  /-- The mark behind which no word is an option. -/
  | mark
  /-- An option, perhaps with a value behind an equals sign. -/
  | option (flag : Flag) (value : Option String)
  /-- The short help option with what stands right behind it or behind an equals sign. -/
  | shortHelp (tail : List Char)
  /-- An option that does not exist. -/
  | unknown

/-- Whether a word is a negative number in digits, perhaps with a point before some of them. -/
def isNegativeNumber (word : List Char) : Bool :=
  match word with
  | '-' :: rest =>
    let number := if rest.getLast? == some '\n' then rest.dropLast else rest
    match number.dropWhile Text.isDecimal with
    | [] => !number.isEmpty
    | '.' :: fraction => !fraction.isEmpty && fraction.all Text.isDecimal
    | _ => false
  | _ => false

/-- What a word is that starts like an option but is none. -/
def classifyOther (word : List Char) : Word :=
  if isNegativeNumber word || word.contains ' ' then .operand else .unknown

/-- What a word is that starts with two dashes. -/
def classifyLong (word : List Char) : Except OptionError Word :=
  let name := word.takeWhile (· != '=')
  let value :=
    match word.dropWhile (· != '=') with
    | [] => none
    | _ :: text => some (String.ofList text)
  match Flag.ofName? name with
  | some flag => .ok (.option flag value)
  | none =>
    match Flag.startingWith name with
    | [] => .ok (classifyOther word)
    | [flag] => .ok (.option flag value)
    | flags => .error (.ambiguous (String.ofList word) flags)

/-- What a word is, as long as no mark came before it. -/
def classify (word : String) : Except OptionError Word :=
  match word.toList with
  | ['-', '-'] => .ok .mark
  | '-' :: '-' :: rest => classifyLong ('-' :: '-' :: rest)
  | ['-', 'h', '='] => .ok (.option .help (some ""))
  | '-' :: 'h' :: '=' :: tail => .ok (.shortHelp tail)
  | '-' :: 'h' :: tail => .ok (.shortHelp tail)
  | ['-'] => .ok .operand
  | '-' :: rest => .ok (classifyOther ('-' :: rest))
  | _ => .ok .operand

/-- What the words are. -/
def classifyAll : List String → Except OptionError (List (String × Word))
  | [] => .ok []
  | word :: rest => do
    match ← classify word with
    | .mark => return (word, .mark) :: rest.map (·, .operand)
    | kind => return (word, kind) :: (← classifyAll rest)

/-- What the words ask for. -/
inductive Request
  | run (options : Options)
  | help
  | fail (error : OptionError)
  deriving DecidableEq

/-- What stands behind the short help option asks for.  Further letters of the same option change
nothing; from any other character on it is a value, and that is one too many. -/
def requestOfTail : List Char → Request
  | [] => .help
  | 'h' :: rest => requestOfTail rest
  | value => .fail (.needlessValue .help (String.ofList value))

/-- Set an option that has a value to none. -/
def Options.clear (options : Options) (flag : Flag) : Options :=
  match flag with
  | .tree => { options with tree := .empty }
  | .treeName => { options with treeName := some .empty }
  | .seed => { options with seed := some .empty }
  | _ => options

/-- Give a value to an option that has one.  The mark is not a value. -/
def Options.setValue (options : Options) (flag : Flag) (value : String) :
    Except OptionError Options :=
  if value = "--" then .ok (options.clear flag)
  else
    match flag with
    | .tree => .ok { options with tree := .value (normalizePath value) }
    | .treeName => .ok { options with treeName := some (.value value) }
    | .seed =>
      match readInteger value with
      | .ok n => .ok { options with seed := some (.value n) }
      | .error _ => .error (.invalidSeed value)
    | _ => .ok options

/-- Turn on an option that has no value. -/
def Options.turnOn (options : Options) (flag : Flag) : Options :=
  match flag with
  | .validate => { options with validate := true }
  | .dev => { options with dev := true }
  | .verbose => { options with verbose := true }
  | _ => options

/-- Take the words in order; `extras` holds those that nobody takes, the last one first. -/
def takeWords (options : Options) (extras : List String) : List (String × Word) → Request
  | [] => if extras.isEmpty then .run options else .fail (.unrecognized extras.reverse)
  | (_, .shortHelp tail) :: _ => requestOfTail tail
  | (_, .option flag (some value)) :: rest =>
    if flag.hasValue then
      match options.setValue flag value with
      | .ok changed => takeWords changed extras rest
      | .error e => .fail e
    else .fail (.needlessValue flag value)
  | (_, .option flag none) :: rest =>
    if flag.hasValue then
      match rest with
      | (value, .operand) :: rest =>
        match options.setValue flag value with
        | .ok changed => takeWords changed extras rest
        | .error e => .fail e
      | _ => .fail (.noValue flag)
    else if flag = .help then .help
    else takeWords (options.turnOn flag) extras rest
  | (word, _) :: rest => takeWords options (word :: extras) rest

/-- What the words of the command line ask for. -/
def parse (words : List String) : Request :=
  match classifyAll words with
  | .ok classified => takeWords {} [] classified
  | .error e => .fail e

end CommandLine

end Colloquy
