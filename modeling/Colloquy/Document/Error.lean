import Colloquy.Document.Scalar
import Colloquy.Json.Basic
import Colloquy.Text.Utf8

/-!
# What can be wrong with a document

A document is refused with a reason that names the part at fault.  A few mistakes are found where no
reason is at hand; there the reading breaks down.

* `Refusal`: why a document is refused;
* `Breakdown`: why its reading breaks down;
* `LoadError`: one or the other;
* `LoadError.naming`: a refusal that names values of the document.
-/

namespace Colloquy

/-- Why the reading of a document breaks down. -/
inductive Breakdown
  /-- A value that should have items is of a kind that has none. -/
  | notIterable (kind : String)
  /-- A value that should be a real number is of a kind that cannot become one. -/
  | notConvertible (kind : String)
  | number (error : NumberError)
  | octets (error : Text.Utf8Error)
  | scalar (error : Document.ScalarError)
  /-- A path has a null character in it. -/
  | nullInPath
  /-- A value cannot become one of the type that it should have. -/
  | invalid (wording : String)

/-- The octets that could not be read, as they are named in a message. -/
def octetsText (e : Text.Utf8Error) : String :=
  if e.stop = e.start + 1 then
    "byte 0x" ++ String.ofList (Text.hexadecimal 2 e.first.toNat) ++ s!" in position {e.start}"
  else s!"bytes in position {e.start}-{e.stop - 1}"

/-- The wording of a breakdown. -/
def Breakdown.message : Breakdown → String
  | .notIterable kind => "'" ++ kind ++ "' object is not iterable"
  | .notConvertible kind =>
    "float() argument must be a string or a real number, not '" ++ kind ++ "'"
  | .number error => error.message
  | .octets error =>
    "'utf-8' codec can't decode " ++ octetsText error ++ ": " ++ error.failure.message
  | .scalar error => error.message
  | .nullInPath => "embedded null byte"
  | .invalid wording => wording

/-- Why a file cannot be read. -/
inductive FileError
  | notFound
  | notDirectory
  | isDirectory
  | nameTooLong
  deriving DecidableEq

/-- The number and the wording of a file error. -/
def FileError.message : FileError → String
  | .notFound => "[Errno 2] No such file or directory"
  | .notDirectory => "[Errno 20] Not a directory"
  | .isDirectory => "[Errno 21] Is a directory"
  | .nameTooLong => "[Errno 36] File name too long"

/-- Why a document is refused. -/
inductive Refusal
  | documentNotMapping
  | noTree
  | noTrees
  | noTreeNamed (name : String) (available : List String)
  | treeNotMapping
  | nodeNotMapping
  | nodeDataNotMapping (id : String)
  | nodeWithoutId (title : String)
  | choicesNotMappings (id : String)
  | connectionsNotMappings
  | schema (tree reason : String)
  | character (reason : String)
  | unreadable (path : String) (error : FileError)
  | malformed (path : String)

/-- The wording of a refusal. -/
def Refusal.message : Refusal → String
  | .documentNotMapping => "Dialog tree document must be a mapping."
  | .noTree => "Document has no 'tree', 'dialogTrees' or 'nodes' entry."
  | .noTrees => "Project contains no dialog trees."
  | .noTreeNamed name available =>
    "No dialog tree named '" ++ name ++ "'. Available: " ++ ", ".intercalate available
  | .treeNotMapping => "Dialog tree must be a mapping."
  | .nodeNotMapping => "Dialog node must be a mapping."
  | .nodeDataNotMapping id => "Data of dialog node '" ++ id ++ "' must be a mapping."
  | .nodeWithoutId title => "Dialog node '" ++ title ++ "' has no id."
  | .choicesNotMappings id =>
    "Choices of dialog node '" ++ id ++ "' must be mappings with an id and text."
  | .connectionsNotMappings => "Dialog connections must be mappings."
  | .schema tree reason =>
    "Dialog tree '" ++ tree ++ "' does not match the expected schema: " ++ reason
  | .character reason => "Invalid character entry: " ++ reason
  | .unreadable path error =>
    "Cannot read '" ++ path ++ "': " ++ error.message ++ ": " ++ Text.quoted path
  | .malformed path => "'" ++ path ++ "' is not valid YAML/JSON: "

/-- Why a document gives no tree. -/
inductive LoadError
  | refused (refusal : Refusal)
  | broken (breakdown : Breakdown)

/-- The refusal that names what is shown.  Where that cannot be written there is no refusal. -/
def LoadError.naming {α : Type} (shown : Except NumberError α) (refusal : α → Refusal) :
    LoadError :=
  match shown with
  | .ok a => .refused (refusal a)
  | .error e => .broken (.number e)

/-- The wording of a load error. -/
def LoadError.message : LoadError → String
  | .refused refusal => refusal.message
  | .broken breakdown => breakdown.message

end Colloquy
