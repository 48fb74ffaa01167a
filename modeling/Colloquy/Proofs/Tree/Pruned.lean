import Colloquy.Proofs.Tree.Clean

/-!
# Pruned trees

A connection is dead if the advice about it says so: an end of it is missing, or it leaves a player
choice node or a conditional node elsewhere than at a handle.  A tree can do without its dead
connections, since no look-up ever goes along one.

* `Issue.isDetachment`: the issues that tell a connection dead;
* `Tree.isDead`, `Tree.pruned`: the dead connections of a tree, and the tree without them;
* `filter_issuesOfConnections`: whether a connection is dead does not hang on the others;
* `Tree.Alike`: two trees that lead to the same targets wherever a conversation asks;
* `alike_pruned`: a tree and the pruned one are alike.
-/

namespace Colloquy

/-- Whether an issue tells a connection dead. -/
def Issue.isDetachment : Issue → Bool
  | .sourceMissing _ _ | .targetMissing _ _ _ | .detachedChoice _ _ | .detachedBranch _ _ => true
  | _ => false

/-- Two trees with the same nodes and the same start that lead to the same targets wherever a
conversation asks for one. -/
structure Tree.Alike (a b : Tree) : Prop where
  nodes : a.nodes = b.nodes
  start : a.startNodeId = b.startNodeId
  /-- A spoken line or a script asks for any connection. -/
  line : ∀ node, a.find? node.id = some node → node.kind = .npc ∨ node.kind = .action →
    a.firstTarget? (a.outgoing node.id) = b.firstTarget? (b.outgoing node.id)
  /-- A player choice node asks at its choices. -/
  response : ∀ node, a.find? node.id = some node → node.kind = .playerChoice →
    ∀ choice ∈ node.choices, a.firstTarget? (a.outgoingFrom node.id choice.id) =
      b.firstTarget? (b.outgoingFrom node.id choice.id)
  /-- A conditional node asks at its branches. -/
  branch : ∀ node, a.find? node.id = some node → node.kind = .conditional →
    ∀ verdict, a.firstTarget? (a.outgoingFrom node.id (branchHandle verdict)) =
      b.firstTarget? (b.outgoingFrom node.id (branchHandle verdict))

namespace Tree

/-- Whether the advice about a connection tells it dead. -/
def isDead (tree : Tree) (c : Connection) : Bool :=
  (tree.issuesOfConnections [] [c]).any Issue.isDetachment

/-- The tree without its dead connections. -/
def pruned (tree : Tree) : Tree :=
  { tree with connections := tree.connections.filter (!tree.isDead ·) }

variable {tree : Tree} {node : Node} {c : Connection} {seen : List Branch}

/-! ### The advice about dead connections -/

theorem find?_congr {a b : Tree} (h : a.nodes = b.nodes) : a.find? = b.find? := by
  funext id
  rw [find?, find?, h]

/-- Of a tree only the nodes matter to the advice about given connections. -/
theorem issuesOfConnections_congr {a b : Tree} (h : a.nodes = b.nodes) (seen : List Branch)
    (connections : List Connection) :
    a.issuesOfConnections seen connections = b.issuesOfConnections seen connections := by
  induction connections generalizing seen with
  | nil => rfl
  | cons c rest ih =>
    simp only [issuesOfConnections, has_eq, find?_congr h, ih]

theorem issuesOfConnections_singleton (seen : List Branch)
    (hsource : tree.find? c.source = some node) :
    tree.issuesOfConnections seen [c] =
      issueIf (!tree.has c.target) (.targetMissing c.id node.label c.target) ++
        departureIssues seen node c := by
  simp [issuesOfConnections, hsource]

theorem filter_issueIf (b : Bool) (issue : Issue) :
    (issueIf b issue).filter Issue.isDetachment = issueIf (b && issue.isDetachment) issue := by
  cases b <;> cases h : issue.isDetachment <;> simp [h]

/-- A branch that was seen before makes no connection dead. -/
theorem filter_departureIssues (seen : List Branch) (node : Node) (c : Connection) :
    (departureIssues seen node c).filter Issue.isDetachment =
      (departureIssues [] node c).filter Issue.isDetachment := by
  unfold departureIssues
  split
  · rfl
  · split
    · rfl
    · rw [filter_issueIf, filter_issueIf]
      simp [Issue.isDetachment]
  · rfl

/-- The advice tells connections dead one by one, whatever stands before them. -/
theorem filter_issuesOfConnections (tree : Tree) (seen : List Branch)
    (connections : List Connection) :
    (tree.issuesOfConnections seen connections).filter Issue.isDetachment =
      connections.flatMap fun c =>
        (tree.issuesOfConnections [] [c]).filter Issue.isDetachment := by
  induction connections generalizing seen with
  | nil => rfl
  | cons c rest ih =>
    rw [List.flatMap_cons, issuesOfConnections]
    cases hsource : tree.find? c.source with
    | none =>
      simp only [issuesOfConnections, hsource, List.filter_cons, ih]
      rfl
    | some source =>
      rw [issuesOfConnections_singleton [] hsource]
      simp only [List.filter_append, ih, filter_departureIssues seen]

/-- A connection is dead if an end of it is missing, or if it leaves a player choice node at none of
its choices or a conditional node at no branch. -/
theorem isDead_iff (hsource : tree.find? c.source = some node) :
    tree.isDead c = true ↔ tree.has c.target = false ∨
      node.kind = .playerChoice ∧ c.sourceHandle.bind node.findChoice? = none ∨
      node.kind = .conditional ∧ isBranchHandle c.sourceHandle = false := by
  have hdeparture : (departureIssues [] node c).any Issue.isDetachment = true ↔
      node.kind = .playerChoice ∧ c.sourceHandle.bind node.findChoice? = none ∨
        node.kind = .conditional ∧ isBranchHandle c.sourceHandle = false := by
    unfold departureIssues branch?
    cases node.kind with
    | playerChoice => cases c.sourceHandle.bind node.findChoice? <;> simp [Issue.isDetachment]
    | conditional =>
      cases hbranch : isBranchHandle c.sourceHandle with
      | false => simp [Issue.isDetachment]
      | true =>
        cases hhandle : c.sourceHandle with
        | none => simp [hhandle, isBranchHandle] at hbranch
        | some handle => simp
    | npc | action | ending => simp
  rw [isDead, issuesOfConnections_singleton [] hsource, List.any_append, Bool.or_eq_true,
    hdeparture]
  cases tree.has c.target <;> simp [Issue.isDetachment]

/-- The advice about a pruned tree tells no connection dead. -/
theorem connectionIssues_pruned (tree : Tree) :
    tree.pruned.connectionIssues.filter Issue.isDetachment = [] := by
  rw [connectionIssues, filter_issuesOfConnections, List.flatMap_eq_nil_iff]
  intro c hc
  have halive : tree.isDead c = false := by simpa using (List.mem_filter.mp hc).2
  have hnodes : tree.pruned.nodes = tree.nodes := rfl
  rw [issuesOfConnections_congr hnodes, List.filter_eq_nil_iff]
  exact List.any_eq_false.mp halive

/-! ### Look-ups -/

/-- A search passes over what it finds nothing at. -/
theorem findSome?_filter_of_none {α β : Type} {f : α → Option β} {p : α → Bool} {items : List α}
    (h : ∀ a ∈ items, p a = false → f a = none) :
    (items.filter p).findSome? f = items.findSome? f := by
  induction items with
  | nil => rfl
  | cons a rest ih =>
    rw [List.forall_mem_cons] at h
    cases hp : p a with
    | true => simp [hp, List.findSome?_cons, ih h.2]
    | false => simp [hp, h.1 hp, ih h.2]

/-- The targets at a node stay the same if only connections that lead nowhere are dead there. -/
theorem firstTarget?_pruned {wanted : Connection → Bool}
    (h : ∀ c ∈ tree.connections, c.source = node.id → wanted c = true → tree.isDead c = true →
      tree.has c.target = false) :
    tree.pruned.firstTarget? ((tree.pruned.outgoing node.id).filter wanted) =
      tree.firstTarget? ((tree.outgoing node.id).filter wanted) := by
  have hfilter : (tree.pruned.outgoing node.id).filter wanted =
      ((tree.outgoing node.id).filter wanted).filter (!tree.isDead ·) := by
    simp only [pruned, outgoing, List.filter_filter, Bool.and_comm, Bool.and_assoc]
  rw [hfilter]
  refine findSome?_filter_of_none fun c hc halive => ?_
  obtain ⟨hout, hwanted⟩ := List.mem_filter.mp hc
  obtain ⟨hmem, hsource⟩ := mem_outgoing.mp hout
  exact has_eq_false_iff.mp (h c hmem hsource hwanted (by simpa using halive))

/-- A tree and the pruned one are alike. -/
theorem alike_pruned (tree : Tree) : tree.Alike tree.pruned where
  nodes := rfl
  start := rfl
  line node hnode kind := by
    have hfirst := @firstTarget?_pruned tree node (fun _ => true) fun c _ hsource _ hdead => by
      rw [← hsource] at hnode
      rcases (isDead_iff hnode).mp hdead with htarget | ⟨hkind, -⟩ | ⟨hkind, -⟩
      · exact htarget
      · simp [hkind] at kind
      · simp [hkind] at kind
    rw [List.filter_eq_self.mpr fun _ _ => rfl, List.filter_eq_self.mpr fun _ _ => rfl] at hfirst
    exact hfirst.symm
  response node hnode kind choice hchoice := by
    refine (firstTarget?_pruned fun c _ hsource hwanted hdead => ?_).symm
    rw [← hsource] at hnode
    have hhandle : c.sourceHandle = some choice.id := by simpa using hwanted
    rcases (isDead_iff hnode).mp hdead with htarget | ⟨-, hlost⟩ | ⟨hkind, -⟩
    · exact htarget
    · -- the choice itself has the id that the handle names
      rw [hhandle, Option.bind_some, Node.findChoice?, List.find?_eq_none] at hlost
      exact absurd (beq_self_eq_true choice.id) (hlost choice hchoice)
    · rw [kind] at hkind
      cases hkind
  branch node hnode kind verdict := by
    refine (firstTarget?_pruned fun c _ hsource hwanted hdead => ?_).symm
    rw [← hsource] at hnode
    have hhandle : c.sourceHandle = some (branchHandle verdict) := by simpa using hwanted
    rcases (isDead_iff hnode).mp hdead with htarget | ⟨hkind, -⟩ | ⟨-, hlost⟩
    · exact htarget
    · rw [kind] at hkind
      cases hkind
    · rw [hhandle] at hlost
      cases verdict <;> simp [isBranchHandle] at hlost

end Tree

end Colloquy
