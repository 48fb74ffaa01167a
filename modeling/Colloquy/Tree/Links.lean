import Colloquy.Tree.Basic

/-!
# Links

How the connections of a tree link its nodes.  A connection whose target does not exist is passed
over, so a node may have connections and still lead nowhere.

* `Tree.outgoing`, `Tree.outgoingFrom`, `Tree.incoming`: the connections at a node, in order;
* `Tree.targets`, `Tree.firstTarget?`: the nodes that connections lead to.
-/

namespace Colloquy

namespace Tree

/-- The node with an id. -/
def find? (tree : Tree) (id : String) : Option Node := tree.nodes.find? id

/-- Whether a node with an id exists. -/
def has (tree : Tree) (id : String) : Bool := tree.nodes.contains id

/-- The connections that start at a node. -/
def outgoing (tree : Tree) (id : String) : List Connection :=
  tree.connections.filter (·.source == id)

/-- The connections that start at a handle of a node. -/
def outgoingFrom (tree : Tree) (id handle : String) : List Connection :=
  (tree.outgoing id).filter (·.sourceHandle == some handle)

/-- The connections that end at a node. -/
def incoming (tree : Tree) (id : String) : List Connection :=
  tree.connections.filter (·.target == id)

/-- The existing nodes that connections lead to. -/
def targets (tree : Tree) (connections : List Connection) : List Node :=
  connections.filterMap fun c => tree.find? c.target

/-- The first existing node that connections lead to. -/
def firstTarget? (tree : Tree) (connections : List Connection) : Option Node :=
  connections.findSome? fun c => tree.find? c.target

theorem has_eq (tree : Tree) (id : String) : tree.has id = (tree.find? id).isSome := rfl

theorem has_iff {tree : Tree} {id : String} :
    tree.has id = true ↔ ∃ node, tree.find? id = some node := by
  rw [has_eq, Option.isSome_iff_exists]

theorem has_eq_false_iff {tree : Tree} {id : String} :
    tree.has id = false ↔ tree.find? id = none := by
  rw [has_eq, Option.isSome_eq_false_iff, Option.isNone_iff_eq_none]

theorem id_of_find? {tree : Tree} {id : String} {node : Node} (h : tree.find? id = some node) :
    node.id = id :=
  Roster.key_of_find? h

theorem find?_of_mem {tree : Tree} {node : Node} (h : node ∈ tree.nodes.toList) :
    tree.find? node.id = some node :=
  Roster.find?_of_mem h

theorem mem_nodes_of_find? {tree : Tree} {id : String} {node : Node}
    (h : tree.find? id = some node) : node ∈ tree.nodes.toList :=
  Roster.mem_of_find? h

theorem mem_outgoing {tree : Tree} {id : String} {c : Connection} :
    c ∈ tree.outgoing id ↔ c ∈ tree.connections ∧ c.source = id := by
  simp [outgoing]

theorem mem_outgoingFrom {tree : Tree} {id handle : String} {c : Connection} :
    c ∈ tree.outgoingFrom id handle ↔
      c ∈ tree.connections ∧ c.source = id ∧ c.sourceHandle = some handle := by
  simp [outgoingFrom, mem_outgoing, and_assoc]

theorem mem_incoming {tree : Tree} {id : String} {c : Connection} :
    c ∈ tree.incoming id ↔ c ∈ tree.connections ∧ c.target = id := by
  simp [incoming]

/-- The first target is the first of the targets. -/
theorem head?_targets (tree : Tree) (connections : List Connection) :
    (tree.targets connections).head? = tree.firstTarget? connections := by
  simp [targets, firstTarget?, List.head?_filterMap]

theorem firstTarget?_eq_none_iff {tree : Tree} {connections : List Connection} :
    tree.firstTarget? connections = none ↔ tree.targets connections = [] := by
  rw [← head?_targets, List.head?_eq_none_iff]

theorem targets_eq_nil_iff {tree : Tree} {connections : List Connection} :
    tree.targets connections = [] ↔ ∀ c ∈ connections, tree.has c.target = false := by
  simp [targets, has_eq_false_iff]

theorem isSome_firstTarget?_iff {tree : Tree} {connections : List Connection} :
    (tree.firstTarget? connections).isSome = true ↔
      ∃ c ∈ connections, tree.has c.target = true := by
  simp only [firstTarget?, List.findSome?_isSome_iff, has_eq]

/-- The first target is where the first connection that leads to an existing node leads. -/
theorem firstTarget?_eq_some_iff {tree : Tree} {connections : List Connection} {node : Node} :
    tree.firstTarget? connections = some node ↔
      ∃ c, connections.find? (fun d => tree.has d.target) = some c ∧
        tree.find? c.target = some node := by
  induction connections with
  | nil => simp [firstTarget?]
  | cons d rest ih =>
    rw [firstTarget?] at ih ⊢
    cases hd : tree.find? d.target with
    | none => simp [has_eq, hd, ih]
    | some n => simp [has_eq, hd]

end Tree

end Colloquy
