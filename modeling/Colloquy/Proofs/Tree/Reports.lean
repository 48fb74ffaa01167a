import Colloquy.Proofs.Success
import Colloquy.Tree.Issues

/-!
# Reported nodes

The nodes that the advice about a tree calls unreachable and those that it calls dead ends.  These
reports stand at the end of the advice, and there are no others.

* `Tree.orphans`, `Tree.deadEnds`: the reported nodes, in the order of the tree;
* `Issue.isReport`: whether an issue is such a report;
* `Issue.isLocal`: whether an issue is about what a single node or connection holds;
* `Node.isLocal_of_mem_issues`, `Tree.isLocal_of_mem_issuesOfConnections`: nodes and connections by
  themselves give no others;
* `Tree.issues_eq_reports`: all reports in the advice;
* `Tree.mem_issues_startMissing_iff`, `Tree.mem_issues_unreachable_iff`: the issues about the start.
-/

namespace Colloquy

/-- Whether an issue is about a node that is not reached or not left. -/
def Issue.isReport : Issue → Bool
  | .unreachable _ | .deadEnd _ => true
  | _ => false

/-- Whether an issue is about what a single node or connection holds. -/
def Issue.isLocal : Issue → Bool
  | .noNodes _ | .startMissing _ | .unreachable _ | .deadEnd _ => false
  | _ => true

theorem Issue.isReport_of_isLocal {issue : Issue} (h : issue.isLocal = true) :
    issue.isReport = false := by
  cases issue <;> first | rfl | cases h

/-- The nodes that no connection leads to from an existing node, once the start is known. -/
def Tree.orphans (tree : Tree) : List Node :=
  match tree.startNodeId with
  | none => []
  | some start =>
    if tree.has start then
      tree.nodes.toList.filter fun node => node.id != start && tree.isOrphan node
    else []

/-- The nodes that are no endings and have no connections of their own. -/
def Tree.deadEnds (tree : Tree) : List Node :=
  tree.nodes.toList.filter fun node => node.kind != .ending && (tree.outgoing node.id).isEmpty

/-! ### Local issues -/

section

variable {issue : Issue} {found : List Issue}

theorem isLocal_of_mem_issueIf {b : Bool} {other : Issue} (h : issue ∈ issueIf b other)
    (hother : other.isLocal = true) : issue.isLocal = true := by
  rw [(mem_issueIf.mp h).2, hother]

/-- Issues that are found item by item are local if those of every item are. -/
theorem isLocal_of_mem_flatten {α : Type} {f : α → Except NumberError (List Issue)}
    {items : List α} {parts : List (List Issue)} (h : items.mapM f = .ok parts)
    (hf : ∀ a found, f a = .ok found → ∀ issue ∈ found, issue.isLocal = true)
    (hissue : issue ∈ parts.flatten) : issue.isLocal = true := by
  obtain ⟨part, hpart, hmem⟩ := List.mem_flatten.mp hissue
  obtain ⟨a, -, ha⟩ := exists_mem_of_forall₂ (mapM_eq_ok_iff.mp h).flip hpart
  exact hf a part ha issue hmem

namespace Node

variable {node : Node}

theorem isLocal_of_mem_choiceIssues (h : issue ∈ node.choiceIssues) : issue.isLocal = true := by
  rcases List.mem_append.mp h with h | h
  · rcases List.mem_append.mp h with h | h <;> exact isLocal_of_mem_issueIf h rfl
  · exact isLocal_of_mem_issueIf h rfl

theorem isLocal_of_mem_conditionIssues (h : node.conditionIssues = .ok found)
    (hissue : issue ∈ found) : issue.isLocal = true := by
  unfold conditionIssues at h
  dsimp only at h
  split at h
  · cases h
    rw [List.mem_singleton.mp hissue]
    rfl
  · obtain ⟨condition, -, rfl⟩ := map_eq_ok_iff.mp h
    exact isLocal_of_mem_issueIf hissue rfl

theorem isLocal_of_mem_scriptIssues (h : node.scriptIssues = .ok found)
    (hissue : issue ∈ found) : issue.isLocal = true := by
  rw [scriptIssues, map_eq_ok_iff] at h
  obtain ⟨parts, hparts, rfl⟩ := h
  rcases List.mem_append.mp hissue with hissue | hissue
  · exact isLocal_of_mem_issueIf hissue rfl
  · refine isLocal_of_mem_flatten hparts (fun line found hline other hother => ?_) hissue
    rw [statementIssues, map_eq_ok_iff] at hline
    obtain ⟨action, -, rfl⟩ := hline
    exact isLocal_of_mem_issueIf hother rfl

/-- What is found about a node by itself is local. -/
theorem isLocal_of_mem_issues (h : node.issues = .ok found) (hissue : issue ∈ found) :
    issue.isLocal = true := by
  rw [issues, map_eq_ok_iff] at h
  obtain ⟨content, hcontent, rfl⟩ := h
  rcases List.mem_append.mp hissue with hissue | hissue
  · exact isLocal_of_mem_issueIf hissue rfl
  · unfold contentIssues at hcontent
    split at hcontent
    · cases hcontent
      exact isLocal_of_mem_issueIf hissue rfl
    · cases hcontent
      exact isLocal_of_mem_choiceIssues hissue
    · exact isLocal_of_mem_conditionIssues hcontent hissue
    · exact isLocal_of_mem_scriptIssues hcontent hissue
    · cases hcontent
      cases hissue

end Node

namespace Tree

variable {tree : Tree}

theorem isLocal_of_mem_departureIssues {seen : List Branch} {node : Node} {c : Connection}
    (h : issue ∈ departureIssues seen node c) : issue.isLocal = true := by
  unfold departureIssues at h
  split at h
  · exact isLocal_of_mem_issueIf h rfl
  · split at h
    · rw [List.mem_singleton.mp h]
      rfl
    · exact isLocal_of_mem_issueIf h rfl
  · cases h

theorem isLocal_of_mem_issuesOfConnections {seen : List Branch} {connections : List Connection}
    (h : issue ∈ tree.issuesOfConnections seen connections) : issue.isLocal = true := by
  -- each connection is checked with the branches seen before it, so these vary in the induction
  induction connections generalizing seen with
  | nil => cases h
  | cons c rest ih =>
    unfold issuesOfConnections at h
    split at h
    · rcases List.mem_cons.mp h with rfl | h
      · rfl
      · exact ih h
    · rcases List.mem_append.mp h with h | h
      · rcases List.mem_append.mp h with h | h
        · exact isLocal_of_mem_issueIf h rfl
        · exact isLocal_of_mem_departureIssues h
      · exact ih h

/-! ### The reports -/

theorem orphanIssues_eq (tree : Tree) :
    tree.orphanIssues = tree.orphans.map fun node => .unreachable node.label := by
  unfold orphanIssues orphans
  cases tree.startNodeId with
  | none => rfl
  | some start =>
    dsimp only
    split
    · exact flatMap_issueIf _ _ _
    · rfl

theorem deadEndIssues_eq (tree : Tree) :
    tree.deadEndIssues = tree.deadEnds.map fun node => .deadEnd node.label :=
  flatMap_issueIf _ _ _

theorem mem_startIssues_iff :
    issue ∈ tree.startIssues ↔
      ∃ id, tree.startNodeId = some id ∧ id ≠ "" ∧ tree.has id = false ∧
        issue = .startMissing id := by
  unfold startIssues
  cases hstart : nonempty? tree.startNodeId with
  | none =>
    refine ⟨nofun, ?_⟩
    rintro ⟨id, hid, hne, -⟩
    have hgiven := nonempty?_eq_some_iff.mpr ⟨hid, hne⟩
    rw [hstart] at hgiven
    cases hgiven
  | some start =>
    obtain ⟨hid, hne⟩ := nonempty?_eq_some_iff.mp hstart
    simp only [mem_issueIf, Bool.not_eq_true', hid, Option.some.injEq, exists_eq_left', hne, ne_eq,
      not_false_eq_true, true_and]

/-- The parts of the advice about a tree with nodes. -/
theorem issues_eq_parts (nodes : tree.nodes.toList ≠ []) {issues : List Issue}
    (h : tree.issues = .ok issues) :
    ∃ others, (∀ issue ∈ others, issue.isLocal = true) ∧
      issues = tree.startIssues ++ others ++ tree.orphans.map (fun node => .unreachable node.label)
        ++ tree.deadEnds.map fun node => .deadEnd node.label := by
  unfold Tree.issues at h
  split at h
  · next hempty => exact absurd (by simpa [Roster.isEmpty] using hempty) nodes
  · rw [map_eq_ok_iff] at h
    obtain ⟨found, hfound, rfl⟩ := h
    refine ⟨found.flatten ++ tree.connectionIssues, fun issue hissue => ?_, ?_⟩
    · rcases List.mem_append.mp hissue with hissue | hissue
      · exact isLocal_of_mem_flatten hfound
          (fun _ _ h _ hissue => Node.isLocal_of_mem_issues h hissue) hissue
      · exact isLocal_of_mem_issuesOfConnections hissue
    · rw [orphanIssues_eq, deadEndIssues_eq, List.append_assoc tree.startIssues]

/-- The reports in the advice about a tree are those about its orphans and its dead ends. -/
theorem issues_eq_reports {issues : List Issue} (h : tree.issues = .ok issues) :
    ∃ others, (∀ issue ∈ others, issue.isReport = false) ∧
      issues = others ++ tree.orphans.map (fun node => .unreachable node.label)
        ++ tree.deadEnds.map fun node => .deadEnd node.label := by
  by_cases hnodes : tree.nodes.toList = []
  · -- without nodes there is nothing to report
    have horphans : tree.orphans = [] := by
      unfold orphans
      split
      · rfl
      · rw [hnodes, List.filter_nil, ite_self]
    have hdead : tree.deadEnds = [] := by rw [deadEnds, hnodes, List.filter_nil]
    have hempty : tree.nodes.isEmpty = true := by simp [Roster.isEmpty, hnodes]
    rw [Tree.issues, if_pos hempty] at h
    cases h
    rw [horphans, hdead]
    exact ⟨[.noNodes tree.name], List.forall_mem_singleton.mpr rfl, rfl⟩
  · obtain ⟨others, hlocal, rfl⟩ := issues_eq_parts hnodes h
    refine ⟨tree.startIssues ++ others, fun issue hissue => ?_, rfl⟩
    rcases List.mem_append.mp hissue with hissue | hissue
    · obtain ⟨id, -, -, -, rfl⟩ := mem_startIssues_iff.mp hissue
      rfl
    · exact Issue.isReport_of_isLocal (hlocal issue hissue)

/-- A missing start is reported exactly if an id is given for it that is not empty and that no node
has. -/
theorem mem_issues_startMissing_iff (nodes : tree.nodes.toList ≠ []) {issues : List Issue}
    (h : tree.issues = .ok issues) {id : String} :
    .startMissing id ∈ issues ↔ tree.startNodeId = some id ∧ id ≠ "" ∧ tree.has id = false := by
  obtain ⟨others, hlocal, rfl⟩ := issues_eq_parts nodes h
  have hothers : .startMissing id ∉ others := fun hmem => Bool.false_ne_true (hlocal _ hmem)
  simp [mem_startIssues_iff, hothers]

/-- A label is reported as unreachable exactly if it is that of an orphan. -/
theorem mem_issues_unreachable_iff (nodes : tree.nodes.toList ≠ []) {issues : List Issue}
    (h : tree.issues = .ok issues) {label : String} :
    .unreachable label ∈ issues ↔ ∃ node ∈ tree.orphans, node.label = label := by
  obtain ⟨others, hlocal, rfl⟩ := issues_eq_parts nodes h
  have hothers : .unreachable label ∉ others := fun hmem => Bool.false_ne_true (hlocal _ hmem)
  simp [mem_startIssues_iff, hothers]

/-- The orphans are the nodes beside the start to which no connection leads from an existing
node. -/
theorem mem_orphans_iff {node : Node} :
    node ∈ tree.orphans ↔
      ∃ start, tree.startNodeId = some start ∧ tree.has start = true ∧
        node ∈ tree.nodes.toList ∧ node.id ≠ start ∧
        ∀ c ∈ tree.connections, c.target = node.id → tree.has c.source = false := by
  unfold orphans
  cases tree.startNodeId with
  | none => simp
  | some start =>
    by_cases given : tree.has start = true
    · simp [given, isOrphan, mem_incoming]
    · simp [given]

end Tree

end

end Colloquy
