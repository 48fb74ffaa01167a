import Colloquy.Proofs.Tree.Passage
import Colloquy.Tree.Issues

/-!
# Clean trees

What a tree is like about which there is no advice: every connection links two nodes of the tree and
leaves its source in the way of that kind of nodes, and only endings lead nowhere.

* `Connection.Links`, `Tree.IsLinked`;
* `links_of_issuesOfConnections`: connections without issues link nodes;
* `isLinked_of_issues`: so does a tree without issues;
* `IsLinked.exists_target`, `IsLinked.exists_enabled`: it leads on from its nodes.
-/

namespace Colloquy

/-- A connection links two nodes of a tree: it leaves a player choice node at one of its choices and
a conditional node at a branch. -/
structure Connection.Links (c : Connection) (tree : Tree) (source : Node) : Prop where
  starts : tree.find? c.source = some source
  ends : tree.has c.target = true
  choice : source.kind = .playerChoice → ∃ choice ∈ source.choices, c.sourceHandle = some choice.id
  branch : source.kind = .conditional → isBranchHandle c.sourceHandle = true

/-- A tree in which connections link nodes and only endings have no connections. -/
structure Tree.IsLinked (tree : Tree) : Prop where
  nodes : tree.nodes.toList ≠ []
  links : ∀ c ∈ tree.connections, ∃ source, c.Links tree source
  leaves : ∀ node ∈ tree.nodes.toList, node.kind ≠ .ending →
    ∃ c ∈ tree.connections, c.source = node.id

instance (tree : Tree) : Decidable (tree.issues = .ok []) :=
  match tree.issues with
  | .ok [] => .isTrue rfl
  | .ok (_ :: _) => .isFalse nofun
  | .error _ => .isFalse nofun

namespace Tree

variable {tree : Tree} {node : Node} {c : Connection} {seen : List Branch}

/-! ### From the advice to the links -/

theorem issueIf_eq_nil_iff {b : Bool} {issue : Issue} : issueIf b issue = [] ↔ b = false := by
  cases b <;> simp

theorem exists_choice_of_departureIssues (kind : node.kind = .playerChoice)
    (h : departureIssues seen node c = []) :
    ∃ choice ∈ node.choices, c.sourceHandle = some choice.id := by
  simp only [departureIssues, kind, issueIf_eq_nil_iff] at h
  rw [Option.isNone_eq_false_iff, Option.isSome_iff_exists] at h
  obtain ⟨choice, hchoice⟩ := h
  obtain ⟨handle, hhandle, hfind⟩ := Option.bind_eq_some_iff.mp hchoice
  refine ⟨choice, List.mem_of_find?_eq_some hfind, ?_⟩
  have hid : choice.id = handle := by simpa using List.find?_some hfind
  rw [hhandle, hid]

theorem isBranchHandle_of_departureIssues (kind : node.kind = .conditional)
    (h : departureIssues seen node c = []) : isBranchHandle c.sourceHandle = true := by
  cases hbranch : isBranchHandle c.sourceHandle with
  | true => rfl
  | false => simp [departureIssues, kind, branch?, hbranch] at h

/-- Connections without issues link nodes. -/
theorem links_of_issuesOfConnections {connections : List Connection}
    (h : tree.issuesOfConnections seen connections = []) :
    ∀ c ∈ connections, ∃ source, c.Links tree source := by
  -- each connection is checked with the branches seen before it, so these vary in the induction
  induction connections generalizing seen with
  | nil => simp
  | cons d rest ih =>
    rw [issuesOfConnections] at h
    cases hsource : tree.find? d.source with
    | none => simp [hsource] at h
    | some source =>
      simp only [hsource, List.append_eq_nil_iff, issueIf_eq_nil_iff, Bool.not_eq_false'] at h
      obtain ⟨⟨hends, hdeparture⟩, hrest⟩ := h
      intro c hc
      rcases List.mem_cons.mp hc with rfl | hc
      · exact ⟨source, hsource, hends, fun kind => exists_choice_of_departureIssues kind hdeparture,
          fun kind => isBranchHandle_of_departureIssues kind hdeparture⟩
      · exact ih hrest c hc

theorem exists_outgoing_of_deadEndIssues (h : tree.deadEndIssues = [])
    (hnode : node ∈ tree.nodes.toList) (kind : node.kind ≠ .ending) :
    ∃ c ∈ tree.connections, c.source = node.id := by
  have hissue := List.flatMap_eq_nil_iff.mp h node hnode
  rw [issueIf_eq_nil_iff] at hissue
  have hne : tree.outgoing node.id ≠ [] := by
    intro hnil
    simp [hnil, kind] at hissue
  obtain ⟨c, hc⟩ := List.exists_mem_of_ne_nil _ hne
  exact ⟨c, mem_outgoing.mp hc⟩

/-- A tree without issues is linked. -/
theorem isLinked_of_issues (h : tree.issues = .ok []) : tree.IsLinked := by
  unfold issues at h
  split at h
  · cases h
  · next hnodes =>
    cases hfound : tree.nodes.toList.mapM Node.issues with
    | error e =>
      rw [hfound] at h
      cases h
    | ok found =>
      rw [hfound] at h
      have hall := Except.ok.inj h
      simp only [List.append_eq_nil_iff] at hall
      obtain ⟨⟨⟨-, hconnections⟩, -⟩, hdeadEnds⟩ := hall
      refine ⟨?_, links_of_issuesOfConnections hconnections,
        fun node hnode kind => exists_outgoing_of_deadEndIssues hdeadEnds hnode kind⟩
      intro hnil
      simp [Roster.isEmpty, hnil] at hnodes

/-! ### What a linked tree offers -/

/-- A connection of a linked tree that starts at a node links it. -/
theorem IsLinked.links_of_find? (h : tree.IsLinked) (hnode : tree.find? node.id = some node)
    (hc : c ∈ tree.connections) (hsource : c.source = node.id) : c.Links tree node := by
  obtain ⟨source, hlinks⟩ := h.links c hc
  have hstarts := hlinks.starts
  rw [hsource, hnode] at hstarts
  cases hstarts
  exact hlinks

/-- A node of a linked tree that is no ending has a connection to a node. -/
theorem IsLinked.exists_target (h : tree.IsLinked) (hnode : tree.find? node.id = some node)
    (kind : node.kind ≠ .ending) :
    ∃ c ∈ tree.connections, c.source = node.id ∧ c.Links tree node := by
  obtain ⟨c, hc, hsource⟩ := h.leaves node (mem_nodes_of_find? hnode) kind
  exact ⟨c, hc, hsource, h.links_of_find? hnode hc hsource⟩

/-- A player choice node of a linked tree offers a response that leads somewhere. -/
theorem IsLinked.exists_enabled (h : tree.IsLinked) (hnode : tree.find? node.id = some node)
    (kind : node.kind = .playerChoice) : ∃ r ∈ tree.responses node, r.isEnabled = true := by
  obtain ⟨c, hc, hsource, hlinks⟩ := h.exists_target hnode (by simp [kind])
  obtain ⟨choice, hchoice, hhandle⟩ := hlinks.choice kind
  obtain ⟨i, hi, rfl⟩ := List.mem_iff_getElem.mp hchoice
  refine ⟨_, (mem_responses kind).mpr ⟨i, hi, rfl⟩, ?_⟩
  exact isEnabled_response_iff.mpr ⟨c, hc, hsource, hhandle, hlinks.ends⟩

end Tree

end Colloquy
