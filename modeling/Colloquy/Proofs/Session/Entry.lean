import Colloquy.Proofs.Session.Unvisited

/-!
# Entries

Where sessions start, and what the advice about a tree takes for the start.  Both look for the node
whose id the tree gives.  For an empty id they part: a session then starts as if no id was given,
while the advice judges from the node with the empty id, if there is one.

* `Session.at`, `Tree.StartsAt`: a conversation that has been at one node only;
* `Tree.IsFallback`: the node at which a conversation starts that is not given a start;
* `Tree.startsAt_iff`, `Tree.startsAt_of_given`, `Tree.startNode?_of_not_given`: the start of all
  sessions;
* `Tree.EntryDecided`, `Tree.entry_decided`: where sessions start, beside what the advice says.
-/

namespace Colloquy

/-- The session of a conversation that has come to a node and has been nowhere else. -/
def Session.at (tree : Tree) (node : Node) (moment : Nat) : Session where
  current := some node.id
  visited := ⟨[node.id], by simp⟩
  store := .empty
  history := [{ nodeId := node.id, choiceText := none, moment }]
  status := (tree.arrival node).1
  message := (tree.arrival node).2

namespace Tree

/-- All sessions of a tree start at a node. -/
def StartsAt (tree : Tree) (node : Node) : Prop :=
  ∀ sources, ∃ moment, (Session.start tree sources).1 = Session.at tree node moment

/-- A node is the first spoken line or script, or else the first of all nodes. -/
inductive IsFallback (tree : Tree) (node : Node) : Prop
  | linear {before after : List Node} (nodes : tree.nodes.toList = before ++ node :: after)
      (linear : node.kind.isLinear = true)
      (others : ∀ other ∈ before, other.kind.isLinear = false)
  | first {after : List Node} (nodes : tree.nodes.toList = node :: after)
      (others : ∀ other ∈ tree.nodes.toList, other.kind.isLinear = false)

variable {tree : Tree} {node : Node}

/-! ### Starts -/

theorem startsAt_of_startNode? (h : tree.startNode? = some node) : tree.StartsAt node := by
  intro sources
  refine ⟨sources.moment.1, ?_⟩
  rw [Session.start, h]
  rfl

/-- Sessions start at the start node and nowhere else. -/
theorem startsAt_iff (here : tree.find? node.id = some node) :
    tree.StartsAt node ↔ tree.startNode? = some node := by
  refine ⟨fun starts => ?_, startsAt_of_startNode?⟩
  obtain ⟨moment, hstart⟩ := starts { chance := fun _ => .zero, clock := .steady .zero }
  cases hother : tree.startNode? with
  | none =>
    rw [Session.start, hother] at hstart
    cases congrArg Session.current hstart
  | some other =>
    obtain ⟨moment', hother'⟩ :=
      startsAt_of_startNode? hother { chance := fun _ => .zero, clock := .steady .zero }
    have hid : other.id = node.id :=
      Option.some.inj (congrArg Session.current (hother'.symm.trans hstart))
    rw [← find?_of_startNode? hother, hid, here]

theorem isFallback_iff :
    tree.IsFallback node ↔
      (tree.nodes.toList.find? (·.kind.isLinear)).or tree.nodes.toList.head? = some node := by
  rw [Option.or_eq_some_iff, List.find?_eq_some_iff_append, List.find?_eq_none]
  constructor
  · rintro (⟨nodes, linear, others⟩ | ⟨nodes, others⟩)
    · exact .inl ⟨linear, _, _, nodes, fun other hother => by simp [others other hother]⟩
    · exact .inr ⟨fun other hother => by simp [others other hother], by simp [nodes]⟩
  · rintro (⟨linear, before, after, nodes, others⟩ | ⟨others, hhead⟩)
    · exact .linear nodes linear fun other hother => by simpa using others other hother
    · obtain ⟨after, nodes⟩ := List.head?_eq_some_iff.mp hhead
      exact .first nodes fun other hother => by simpa using others other hother

/-- If an id that is not empty is that of a node, sessions start there. -/
theorem startsAt_of_given {id : String} (given : tree.startNodeId = some id) (hne : id ≠ "")
    (here : tree.find? id = some node) : tree.StartsAt node := by
  obtain ⟨first, hfirst, rfl⟩ := startNode?_of_startNodeId given hne (has_iff.mpr ⟨node, here⟩)
  rw [find?_of_startNode? hfirst] at here
  cases here
  exact startsAt_of_startNode? hfirst

/-- Without such an id they start at the fallback. -/
theorem startNode?_of_not_given
    (h : ∀ id, tree.startNodeId = some id → id ≠ "" → tree.has id = false) :
    tree.startNode? = some node ↔ tree.IsFallback node := by
  have hnone : (nonempty? tree.startNodeId).bind tree.find? = none := by
    refine Option.bind_eq_none_iff.mpr fun id hid => ?_
    obtain ⟨hgiven, hne⟩ := nonempty?_eq_some_iff.mp hid
    exact has_eq_false_iff.mp (h id hgiven hne)
  rw [isFallback_iff, startNode?, hnone, Option.none_or]

/-- Where sessions start in a tree, beside what the advice about the tree says of the start. -/
structure EntryDecided (tree : Tree) : Prop where
  /-- If an id that is not empty is that of a node, sessions start at that node. -/
  given : ∀ id node, tree.startNodeId = some id → id ≠ "" → tree.find? id = some node →
    tree.StartsAt node
  /-- Otherwise they start at the first spoken line or script, or else at the first node. -/
  otherwise : (∀ id, tree.startNodeId = some id → id ≠ "" → tree.has id = false) →
    ∃ node, tree.IsFallback node ∧ tree.StartsAt node
  /-- They start at one node only. -/
  unique : ∀ node other, tree.find? node.id = some node → tree.find? other.id = some other →
    tree.StartsAt node → tree.StartsAt other → node = other
  /-- A missing start is reported exactly if an id is given that is not empty and that no node
  has. -/
  missing_iff : ∀ issues id, tree.issues = .ok issues →
    (.startMissing id ∈ issues ↔ tree.startNodeId = some id ∧ id ≠ "" ∧ tree.has id = false)
  /-- Nodes are reported as unreachable from the node whose id is given, the empty id included, and
  only if there is such a node. -/
  unreachable_iff : ∀ issues label, tree.issues = .ok issues →
    (.unreachable label ∈ issues ↔
      ∃ start, tree.startNodeId = some start ∧ tree.has start = true ∧
        ∃ node ∈ tree.nodes.toList, node.label = label ∧ node.id ≠ start ∧
          ∀ c ∈ tree.connections, c.target = node.id → tree.has c.source = false)
  /-- Sessions start at the node from which the advice judges, unless its id is empty and another
  node is the fallback. -/
  agree_iff : ∀ id node, tree.startNodeId = some id → tree.find? id = some node →
    (tree.StartsAt node ↔ id ≠ "" ∨ tree.IsFallback node)

/-- **The start is decided**: sessions start at the node that the tree names and the advice judges
from the same node, but for an empty id. -/
theorem entry_decided (nodes : tree.nodes.toList ≠ []) : tree.EntryDecided := by
  constructor
  case given => exact fun id node => startsAt_of_given
  case otherwise =>
    intro unknown
    cases hstart : tree.startNode? with
    | none => exact absurd (startNode?_eq_none_iff.mp hstart) nodes
    | some node =>
      exact ⟨node, (startNode?_of_not_given unknown).mp hstart, startsAt_of_startNode? hstart⟩
  case unique =>
    intro node other here here' starts starts'
    have hstart := (startsAt_iff here).mp starts
    rw [(startsAt_iff here').mp starts'] at hstart
    exact (Option.some.inj hstart).symm
  case missing_iff => exact fun issues id h => mem_issues_startMissing_iff nodes h
  case unreachable_iff =>
    intro issues label h
    rw [mem_issues_unreachable_iff nodes h]
    simp only [mem_orphans_iff]
    constructor
    · rintro ⟨node, ⟨start, hstart, hhas, hmem, hne, hnone⟩, hlabel⟩
      exact ⟨start, hstart, hhas, node, hmem, hlabel, hne, hnone⟩
    · rintro ⟨start, hstart, hhas, node, hmem, hlabel, hne, hnone⟩
      exact ⟨node, ⟨start, hstart, hhas, hmem, hne, hnone⟩, hlabel⟩
  case agree_iff =>
    intro id node hstart here
    by_cases hne : id = ""
    · subst hne
      have unknown : ∀ id, tree.startNodeId = some id → id ≠ "" → tree.has id = false := by
        intro id hid hne
        rw [hstart] at hid
        exact absurd (Option.some.inj hid).symm hne
      have here' : tree.find? node.id = some node := by rwa [id_of_find? here]
      rw [startsAt_iff here', startNode?_of_not_given unknown]
      simp
    · simp [startsAt_of_given hstart hne here, hne]

end Tree

/-- An ending with an empty id, which the tree names as its start, and a line that leads to it. -/
def porchTree : Tree where
  id := "porch"
  name := "Porch"
  nodes := (Roster.empty.put { id := "", kind := .ending, title := "Gate" }).put
    { id := "hall", kind := .npc, title := "Hall", content := some "Hello." }
  connections := [{ id := "out", source := "hall", target := "" }]
  startNodeId := some ""

/-- No start is missing and the hall is reported as unreachable, but all sessions start there. -/
theorem entry_decided_on_porch :
    porchTree.nodes.toList ≠ [] ∧
      ∃ gate hall, porchTree.find? "" = some gate ∧ porchTree.find? "hall" = some hall ∧
        porchTree.issues = .ok [.unreachable hall.label] ∧
        porchTree.StartsAt hall ∧ ¬ porchTree.StartsAt gate := by
  let gate : Node := { id := "", kind := .ending, title := "Gate" }
  let hall : Node := { id := "hall", kind := .npc, title := "Hall", content := some "Hello." }
  have nodes : porchTree.nodes.toList ≠ [] := List.cons_ne_nil gate [hall]
  have decided := Tree.entry_decided nodes
  obtain ⟨first, fallback, starts⟩ := decided.otherwise (by simp [porchTree])
  have hfirst : hall = first := Option.some.inj (Tree.isFallback_iff.mp fallback)
  subst hfirst
  refine ⟨nodes, gate, hall, rfl, rfl, rfl, starts, fun starts' => ?_⟩
  have same : gate = hall := decided.unique gate hall rfl rfl starts' starts
  exact absurd (congrArg Node.id same) (by decide)

end Colloquy
