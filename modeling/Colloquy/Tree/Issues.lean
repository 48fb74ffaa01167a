import Colloquy.Script.Action
import Colloquy.Script.Condition
import Colloquy.Tree.Links

/-!
# Issues

Advice about a tree.  Nothing here is required for a tree to be played: a session that meets an
issue is stuck at most.

* `Issue`, `Issue.message`: what may be wrong;
* `Node.issues`, `Tree.connectionIssues`, `Tree.orphanIssues`, `Tree.deadEndIssues`: the parts of
  the advice;
* `Tree.issues`: all of it, in order.

The advice cannot be given for a node whose condition or script cannot be read.
-/

namespace Colloquy

/-- What may be wrong with a tree.  Nodes are named by their labels unless they have no title. -/
inductive Issue
  | noNodes (tree : String)
  | startMissing (id : String)
  | untitled (id : String)
  | silentNpc (label : String)
  | noChoices (label : String)
  | emptyChoice (label : String)
  | repeatedChoices (label : String) (ids : List String)
  | noCondition (label : String)
  | unresolvedCondition (content label : String)
  | noAction (label : String)
  | unknownAction (line label : String)
  | sourceMissing (connection source : String)
  | targetMissing (connection label target : String)
  | detachedChoice (connection label : String)
  | detachedBranch (connection label : String)
  | repeatedBranch (label handle : String)
  | unreachable (label : String)
  | deadEnd (label : String)
  deriving DecidableEq

namespace Issue

/-- The wording of an issue. -/
def message : Issue → String
  | .noNodes tree => "Dialog tree '" ++ tree ++ "' has no nodes."
  | .startMissing id => "Start node '" ++ id ++ "' was not found in the 'nodes' list."
  | .untitled id => "Node '" ++ id ++ "' has no title."
  | .silentNpc label => "NPC node '" ++ label ++ "' has no dialog text."
  | .noChoices label => "Player choice node '" ++ label ++ "' has no choices."
  | .emptyChoice label => "Player choice node '" ++ label ++ "' has a choice with no text."
  | .repeatedChoices label ids =>
    "Player choice node '" ++ label ++ "' reuses choice id(s) "
      ++ Text.enumerate (Text.wrapAll ids) "and" ++ "."
  | .noCondition label => "Conditional node '" ++ label ++ "' has no condition."
  | .unresolvedCondition content label =>
    "Condition '" ++ content ++ "' in '" ++ label
      ++ "' is not recognised and will be simulated randomly."
  | .noAction label => "Action node '" ++ label ++ "' has no action."
  | .unknownAction line label =>
    "Action '" ++ line ++ "' in '" ++ label ++ "' is not recognised and will only be recorded."
  | .sourceMissing connection source =>
    "Connection '" ++ connection ++ "' starts at missing node '" ++ source ++ "'."
  | .targetMissing connection label target =>
    "Connection '" ++ connection ++ "' from '" ++ label ++ "' points to missing node '" ++ target
      ++ "'."
  | .detachedChoice connection label =>
    "Connection '" ++ connection ++ "' from '" ++ label
      ++ "' is not attached to any of its choices."
  | .detachedBranch connection label =>
    "Connection '" ++ connection ++ "' from '" ++ label
      ++ "' must use the 'true' or 'false' handle."
  | .repeatedBranch label handle =>
    "Conditional node '" ++ label ++ "' has more than one '" ++ handle
      ++ "' branch. The first one is used."
  | .unreachable label =>
    "Node '" ++ label ++ "' has no incoming connections and can never be reached."
  | .deadEnd label => "Node '" ++ label ++ "' has no outgoing connections and is not an end node."

end Issue

/-- The list with one issue, if the condition holds. -/
def issueIf (condition : Bool) (issue : Issue) : List Issue := if condition then [issue] else []

@[simp] theorem issueIf_true (issue : Issue) : issueIf true issue = [issue] := rfl
@[simp] theorem issueIf_false (issue : Issue) : issueIf false issue = [] := rfl

theorem mem_issueIf {b : Bool} {issue i : Issue} : i ∈ issueIf b issue ↔ b = true ∧ i = issue := by
  cases b <;> simp

/-- What is found about some items of a list. -/
theorem flatMap_issueIf {α : Type} (p : α → Bool) (issue : α → Issue) (items : List α) :
    items.flatMap (fun a => issueIf (p a) (issue a)) = (items.filter p).map issue := by
  induction items with
  | nil => rfl
  | cons a rest ih =>
    rw [List.flatMap_cons, ih]
    cases hp : p a <;> simp [hp]

/-! ### Nodes -/

namespace Node

/-- The ids that several choices of a node have, in order. -/
def repeatedChoiceIds (node : Node) : List String :=
  let ids := node.choices.map Choice.id
  (ids.filter fun id => 1 < ids.count id).eraseDups.mergeSort fun a b => decide (a ≤ b)

/-- What may be wrong with the choices of a player choice node. -/
def choiceIssues (node : Node) : List Issue :=
  issueIf node.choices.isEmpty (.noChoices node.label)
    ++ issueIf (node.choices.any fun c => Text.isAllBlank c.text) (.emptyChoice node.label)
    ++ issueIf (!node.repeatedChoiceIds.isEmpty)
      (.repeatedChoices node.label node.repeatedChoiceIds)

/-- What may be wrong with the condition of a conditional node. -/
def conditionIssues (node : Node) : Except NumberError (List Issue) :=
  let content := Text.strip node.body
  if content.isEmpty then .ok [.noCondition node.label]
  else
    (Condition.read content).map fun condition =>
      issueIf condition.isUnresolved (.unresolvedCondition content node.label)

/-- What may be wrong with a statement of an action node. -/
def statementIssues (node : Node) (line : String) : Except NumberError (List Issue) :=
  (Action.read line).map fun action => issueIf action.isUnknown (.unknownAction line node.label)

/-- What may be wrong with the script of an action node. -/
def scriptIssues (node : Node) : Except NumberError (List Issue) :=
  let content := Text.strip node.body
  ((scriptLines content).mapM node.statementIssues).map fun found =>
    issueIf content.isEmpty (.noAction node.label) ++ found.flatten

/-- What may be wrong with what a node of its kind holds. -/
def contentIssues (node : Node) : Except NumberError (List Issue) :=
  match node.kind with
  | .npc => .ok (issueIf (Text.isAllBlank node.body) (.silentNpc node.label))
  | .playerChoice => .ok node.choiceIssues
  | .conditional => node.conditionIssues
  | .action => node.scriptIssues
  | .ending => .ok []

/-- What may be wrong with a node by itself. -/
def issues (node : Node) : Except NumberError (List Issue) :=
  node.contentIssues.map (issueIf (Text.isAllBlank node.title) (.untitled node.id) ++ ·)

end Node

/-! ### Connections -/

namespace Tree

/-- A branch of a conditional node: the node's id and the branch's handle. -/
abbrev Branch := String × String

/-- The branch that a connection takes from a node, if it takes one. -/
def branch? (node : Node) (c : Connection) : Option Branch :=
  if node.kind = .conditional ∧ isBranchHandle c.sourceHandle then
    c.sourceHandle.map fun handle => (node.id, handle)
  else none

/-- What may be wrong with how a connection leaves a node, when the given branches have been
seen. -/
def departureIssues (seen : List Branch) (node : Node) (c : Connection) : List Issue :=
  match node.kind with
  | .playerChoice =>
    issueIf ((c.sourceHandle.bind node.findChoice?).isNone) (.detachedChoice c.id node.label)
  | .conditional =>
    match branch? node c with
    | none => [.detachedBranch c.id node.label]
    | some branch => issueIf (seen.contains branch) (.repeatedBranch node.label branch.2)
  | _ => []

/-- What may be wrong with connections, when the given branches have been seen before them. -/
def issuesOfConnections (tree : Tree) (seen : List Branch) : List Connection → List Issue
  | [] => []
  | c :: rest =>
    match tree.find? c.source with
    | none => .sourceMissing c.id c.source :: tree.issuesOfConnections seen rest
    | some node =>
      issueIf (!tree.has c.target) (.targetMissing c.id node.label c.target)
        ++ departureIssues seen node c
        ++ tree.issuesOfConnections ((branch? node c).toList ++ seen) rest

/-- What may be wrong with the connections of a tree. -/
def connectionIssues (tree : Tree) : List Issue := tree.issuesOfConnections [] tree.connections

/-! ### Trees -/

/-- Whether no connection leads from an existing node to a node. -/
def isOrphan (tree : Tree) (node : Node) : Bool :=
  !(tree.incoming node.id).any fun c => tree.has c.source

/-- The nodes that no connection leads to, once the start is known. -/
def orphanIssues (tree : Tree) : List Issue :=
  match tree.startNodeId with
  | none => []
  | some start =>
    if tree.has start then
      tree.nodes.toList.flatMap fun node =>
        issueIf (node.id != start && tree.isOrphan node) (.unreachable node.label)
    else []

/-- The nodes that are no endings and have no connections of their own. -/
def deadEndIssues (tree : Tree) : List Issue :=
  tree.nodes.toList.flatMap fun node =>
    issueIf (node.kind != .ending && (tree.outgoing node.id).isEmpty) (.deadEnd node.label)

/-- What may be wrong with the choice of the start. -/
def startIssues (tree : Tree) : List Issue :=
  match nonempty? tree.startNodeId with
  | none => []
  | some start => issueIf (!tree.has start) (.startMissing start)

/-- All that may be wrong with a tree. -/
def issues (tree : Tree) : Except NumberError (List Issue) :=
  if tree.nodes.isEmpty then .ok [.noNodes tree.name]
  else
    (tree.nodes.toList.mapM Node.issues).map fun found =>
      tree.startIssues ++ found.flatten ++ tree.connectionIssues ++ tree.orphanIssues
        ++ tree.deadEndIssues

end Tree

end Colloquy
