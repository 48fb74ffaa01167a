import Colloquy.Session.Basic
import Colloquy.Tree.Links

/-!
# Transcripts

The history of a session as it reads in the tree of today: nodes that were edited show their present
texts, and nodes that were removed are unknown.

* `TranscriptLine`, `transcript`;
* `speakerOf?`: who speaks at a node.

Of several characters with one id the last one speaks.
-/

namespace Colloquy

/-- The title of a node that has none or no longer exists. -/
def unknownTitle : String := "Unknown Node"

/-- A line of a transcript. -/
structure TranscriptLine where
  nodeId : String
  title : String
  moment : Nat
  kind : Option NodeKind := none
  speaker : Option String := none
  content : Option String := none
  choiceText : Option String := none
  deriving DecidableEq

/-- The name of the character who speaks at a node, if one is known. -/
def speakerOf? (characters : List Character) (node : Node) : Option String :=
  (nonempty? node.character).bind fun id =>
    (characters.reverse.find? (·.id == id)).map Character.label

/-- The line of one step. -/
def transcriptLine (tree : Tree) (characters : List Character) (entry : HistoryEntry) :
    TranscriptLine :=
  match tree.find? entry.nodeId with
  | none =>
    { nodeId := entry.nodeId
      title := unknownTitle
      moment := entry.moment
      choiceText := entry.choiceText }
  | some node =>
    { nodeId := node.id
      title := if node.title.isEmpty then unknownTitle else node.title
      moment := entry.moment
      kind := some node.kind
      speaker := speakerOf? characters node
      content := node.content
      choiceText := entry.choiceText }

/-- The transcript of a session. -/
def transcript (session : Session) (tree : Tree) (characters : List Character) :
    List TranscriptLine :=
  session.history.map (transcriptLine tree characters)

end Colloquy
