import Colloquy.Proofs.Session.Standing
import Colloquy.Proofs.Tree.Clean

/-!
# Where a session is stuck

A tree without issues can still stop a session, but only at a condition that lacks one of its
branches.

* `Tree.HasBranch`: a conditional node has a branch;
* `Tree.IsLinked.gap_of_stranded`: nothing else strands a session in a linked tree;
* `Tree.stuck_only_at_gap`: so it is at every point of every run.
-/

namespace Colloquy

/-- A node has a connection at the handle of a branch. -/
def Tree.HasBranch (tree : Tree) (node : Node) (handle : String) : Prop :=
  ∃ c ∈ tree.connections, c.source = node.id ∧ c.sourceHandle = some handle

instance (tree : Tree) (node : Node) (handle : String) : Decidable (tree.HasBranch node handle) :=
  inferInstanceAs (Decidable (∃ c ∈ tree.connections, c.source = node.id ∧
    c.sourceHandle = some handle))

section

variable {tree : Tree} {s : Session} {node : Node}

/-- In a linked tree only a missing branch strands a session. -/
theorem Tree.IsLinked.gap_of_stranded (h : tree.IsLinked) (hnode : tree.find? node.id = some node)
    (stranded : tree.Stranded node) :
    node.kind = .conditional ∧ (¬ tree.HasBranch node "true" ∨ ¬ tree.HasBranch node "false") := by
  cases stranded with
  | line kind nowhere =>
    obtain ⟨c, hc, hsource, hlinks⟩ :=
      h.exists_target hnode (by rcases kind with kind | kind <;> simp [kind])
    have hends := hlinks.ends
    rw [nowhere c hc hsource] at hends
    cases hends
  | responses kind nowhere =>
    obtain ⟨r, hr, henabled⟩ := h.exists_enabled hnode kind
    rw [nowhere r hr] at henabled
    cases henabled
  | @branch verdict kind nowhere =>
    -- all connections of a linked tree lead somewhere, so none is at the handle
    have hgap : ¬ tree.HasBranch node (branchHandle verdict) := by
      rintro ⟨c, hc, hsource, hhandle⟩
      have hends := (h.links_of_find? hnode hc hsource).ends
      rw [nowhere c hc hsource hhandle] at hends
      cases hends
    refine ⟨kind, ?_⟩
    cases verdict with
    | true => exact .inl hgap
    | false => exact .inr hgap

/-- A linked tree has a start. -/
theorem Tree.IsLinked.status_start_ne_noNodes (h : tree.IsLinked) (sources : Sources) :
    (Session.start tree sources).1.status ≠ .noNodes := by
  intro hstatus
  exact h.nodes ((standing_start tree sources).isExact.no_nodes hstatus)

/-- A session that is stuck in a linked tree stands at a condition with a missing branch. -/
theorem Standing.gap_of_stuck (h : Standing tree s) (linked : tree.IsLinked)
    (status : s.status = .stuck) :
    ∃ node, s.node? tree = some node ∧ node.kind = .conditional ∧
      (¬ tree.HasBranch node "true" ∨ ¬ tree.HasBranch node "false") := by
  obtain ⟨-, -, -, node, here, stranded⟩ := h.isExact.stuck status
  exact ⟨node, here, linked.gap_of_stranded (Session.find?_of_node? here) stranded⟩

/-- **A tree without issues stops a session at most at a missing branch.**  Where both branches of
every condition are there, nothing ever does. -/
theorem Tree.stuck_only_at_gap (clean : tree.issues = .ok []) :
    (∀ sources, (Session.start tree sources).1.status ≠ .noNodes) ∧
      ∀ s, Reachable tree s →
        (s.status = .stuck →
          ∃ node, s.node? tree = some node ∧ node.kind = .conditional ∧
            (¬ tree.HasBranch node "true" ∨ ¬ tree.HasBranch node "false")) ∧
        ((∀ node ∈ tree.nodes.toList, node.kind = .conditional →
            tree.HasBranch node "true" ∧ tree.HasBranch node "false") →
          s.status ≠ .stuck) := by
  have linked := Tree.isLinked_of_issues clean
  refine ⟨linked.status_start_ne_noNodes, fun s reached => ?_⟩
  refine ⟨reached.standing.gap_of_stuck linked, fun branches status => ?_⟩
  obtain ⟨node, here, kind, hgap⟩ := reached.standing.gap_of_stuck linked status
  have hnode := Tree.mem_nodes_of_find? (Session.find?_of_node? here)
  obtain ⟨htrue, hfalse⟩ := branches node hnode kind
  rcases hgap with hgap | hgap
  · exact hgap htrue
  · exact hgap hfalse

/-- The gate with a way back for those who do not hold the key. -/
def revolvingTree : Tree :=
  { gateTree with
    connections := gateTree.connections ++
      [{ id := "back", source := "gate", target := "hall", sourceHandle := some "false" }] }

/-- The gate stops a session that comes without the key, and with the way back it never does. -/
theorem stuck_only_at_gate :
    (∃ node, keyless.node? gateTree = some node ∧ node.kind = .conditional ∧
      (¬ gateTree.HasBranch node "true" ∨ ¬ gateTree.HasBranch node "false")) ∧
      ∀ s, Reachable revolvingTree s → s.status ≠ .stuck := by
  have hgate : gateTree.issues = .ok [] := by decide +kernel
  have hrevolving : revolvingTree.issues = .ok [] := by decide +kernel
  have hstuck : keyless.status = .stuck := by decide +kernel
  have hbranches : ∀ node ∈ revolvingTree.nodes.toList, node.kind = .conditional →
      revolvingTree.HasBranch node "true" ∧ revolvingTree.HasBranch node "false" := by
    decide +kernel
  exact ⟨((Tree.stuck_only_at_gap hgate).2 keyless reachable_keyless).1 hstuck,
    fun s reached => ((Tree.stuck_only_at_gap hrevolving).2 s reached).2 hbranches⟩

end

end Colloquy
