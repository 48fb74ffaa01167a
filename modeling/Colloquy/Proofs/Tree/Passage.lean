import Colloquy.Session.Play

/-!
# Passages

Where a conversation can go on from a node, told from the connections of the tree alone: their
order, their handles and whether their targets exist.

* `Tree.IsFirst`: the first wanted connection of a node that leads to an existing node;
* `Tree.Passage`: the connections along which a conversation goes on, with the text for its
  history;
* `firstTarget?_outgoing_iff`, `firstTarget?_outgoingFrom_iff`: first targets are reached along
  first connections;
* `startNode?_eq_none_iff`: only a tree without nodes has no start.
-/

namespace Colloquy

namespace Tree

variable {tree : Tree} {node target : Node} {c : Connection} {wanted : Connection → Bool}

/-! ### First connections -/

/-- The first connection of the tree that starts at a node, is wanted and leads to an existing
node. -/
def IsFirst (tree : Tree) (node : Node) (wanted : Connection → Bool) (c : Connection) : Prop :=
  tree.connections.find? (fun d => d.source == node.id && wanted d && tree.has d.target) = some c

theorem IsFirst.mem (h : tree.IsFirst node wanted c) : c ∈ tree.connections :=
  List.mem_of_find?_eq_some h

theorem IsFirst.source_eq (h : tree.IsFirst node wanted c) : c.source = node.id := by
  have := List.find?_some h
  simp_all

theorem IsFirst.mem_outgoing (h : tree.IsFirst node wanted c) : c ∈ tree.outgoing node.id :=
  Tree.mem_outgoing.mpr ⟨h.mem, h.source_eq⟩

theorem firstTarget?_filter_iff :
    tree.firstTarget? ((tree.outgoing node.id).filter wanted) = some target ↔
      ∃ c, tree.IsFirst node wanted c ∧ tree.find? c.target = some target := by
  simp only [firstTarget?_eq_some_iff, IsFirst, outgoing, List.filter_filter, List.find?_filter]
  simp only [Bool.decide_and, Bool.decide_eq_true, Bool.and_comm (wanted _)]

/-- The first target of a node is reached along the first of its connections. -/
theorem firstTarget?_outgoing_iff :
    tree.firstTarget? (tree.outgoing node.id) = some target ↔
      ∃ c, tree.IsFirst node (fun _ => true) c ∧ tree.find? c.target = some target := by
  rw [← firstTarget?_filter_iff, List.filter_eq_self.mpr fun _ _ => rfl]

/-- The first target at a handle is reached along the first connection at that handle. -/
theorem firstTarget?_outgoingFrom_iff {handle : String} :
    tree.firstTarget? (tree.outgoingFrom node.id handle) = some target ↔
      ∃ c, tree.IsFirst node (·.sourceHandle == some handle) c ∧
        tree.find? c.target = some target :=
  firstTarget?_filter_iff

/-! ### Passages -/

/-- The connections along which a conversation goes on from a node, each with the text that the
history keeps.  An ending has none. -/
inductive Passage (tree : Tree) (node : Node) : Option String → Connection → Prop
  /-- A spoken line or a script goes on along its first connection. -/
  | onward {c : Connection} (kind : node.kind = .npc ∨ node.kind = .action)
      (first : tree.IsFirst node (fun _ => true) c) : Passage tree node none c
  /-- A response goes on along the first connection of its choice. -/
  | response {c : Connection} {choice : Choice} (kind : node.kind = .playerChoice)
      (offered : choice ∈ node.choices)
      (first : tree.IsFirst node (·.sourceHandle == some choice.id) c) :
      Passage tree node (some choice.text) c
  /-- A condition that is true goes on along its first true branch. -/
  | whenTrue {c : Connection} (kind : node.kind = .conditional)
      (first : tree.IsFirst node (·.sourceHandle == some "true") c) :
      Passage tree node (some "Condition: TRUE") c
  /-- A condition that is false goes on along its first false branch. -/
  | whenFalse {c : Connection} (kind : node.kind = .conditional)
      (first : tree.IsFirst node (·.sourceHandle == some "false") c) :
      Passage tree node (some "Condition: FALSE") c

/-! ### Responses -/

theorem mem_responses {r : Response} (kind : node.kind = .playerChoice) :
    r ∈ tree.responses node ↔
      ∃ i, ∃ h : i < node.choices.length, tree.response node i node.choices[i] = r := by
  simp [responses, kind, List.mem_mapIdx]

/-- A response is enabled if a connection at its choice leads to an existing node. -/
theorem isEnabled_response_iff {i : Nat} {choice : Choice} :
    (tree.response node i choice).isEnabled = true ↔
      ∃ c ∈ tree.connections, c.source = node.id ∧ c.sourceHandle = some choice.id ∧
        tree.has c.target = true := by
  simp only [Response.isEnabled, response, isSome_firstTarget?_iff, mem_outgoingFrom, and_assoc]

/-- A response that leads anywhere leads along a passage. -/
theorem passage_of_mem_responses {r : Response} (kind : node.kind = .playerChoice)
    (hr : r ∈ tree.responses node) (ht : r.target = some target) :
    ∃ c, tree.Passage node (some r.choice.text) c ∧ tree.find? c.target = some target := by
  obtain ⟨i, hi, rfl⟩ := (mem_responses kind).mp hr
  obtain ⟨c, hfirst, hc⟩ := firstTarget?_outgoingFrom_iff.mp ht
  exact ⟨c, .response kind (List.getElem_mem hi) hfirst, hc⟩

/-! ### Starts -/

/-- Only a tree without nodes has no start. -/
theorem startNode?_eq_none_iff : tree.startNode? = none ↔ tree.nodes.toList = [] := by
  constructor
  · intro h
    simp only [startNode?, Option.or_eq_none_iff, List.head?_eq_none_iff] at h
    exact h.2.2
  · intro h
    have hfind : tree.find? = fun _ => none := by
      funext id
      simp [find?, Roster.find?, h]
    simp [startNode?, h, hfind]

theorem find?_of_startNode? (h : tree.startNode? = some node) :
    tree.find? node.id = some node := by
  simp only [startNode?, Option.or_eq_some_iff] at h
  rcases h with h | ⟨-, h | ⟨-, h⟩⟩
  · obtain ⟨id, -, hid⟩ := Option.bind_eq_some_iff.mp h
    rwa [id_of_find? hid]
  · exact find?_of_mem (List.mem_of_find?_eq_some h)
  · exact find?_of_mem (List.mem_of_head? h)

end Tree

end Colloquy
